import SpecterCloud.Authorization.Provenance
import SpecterCloud.Migrations.Statements
import SpecterCloud.Scripts.BootstrapOutcomes
import SpecterCloud.Service.KeptHistory

/-! No call changes what a user may do: decisions about the users of some moment stand, and
whoever comes later may do something only below an org where they were bootstrapped.
-/

namespace SpecterCloud.Service

open SpecterCloud.Foundations
open SpecterCloud.Models
open SpecterCloud.Core
open SpecterCloud.Auth
open SpecterCloud.Api
open SpecterCloud.Scripts
open SpecterCloud.Migrations

/-- The references that a check follows lead to rows. -/
structure AccessReferences (db : Database) : Prop where
  parents : ∀ org ∈ db.orgs, NullOr (· ∈ db.orgs.map Org.id) org.parentOrgId
  grantOrgs : ∀ grant ∈ db.userRoles, grant.orgId ∈ db.orgs.map Org.id
  grantUsers : ∀ grant ∈ db.userRoles, grant.userId ∈ db.users.map User.id

/-- The foreign keys of a migrated store ask for them. -/
theorem AccessReferences.of_holds {document : List (String × ExtraValue) → String}
    {store : MigratedStore} {records : StoredRecords} {db : Database}
    (holds : Holds document store records db)
    : AccessReferences db := by
  have consistent := holds.carried.consistent holds.stands
  obtain ⟨orgs, users, _, userRoles, _, _⟩ := holds.shows
  refine ⟨?_, ?_, ?_⟩
  · rw [orgs]
    exact consistent.orgs.parentsKnown
  · rw [orgs, userRoles, List.forall_mem_map]
    exact consistent.userRoles.orgsKnown
  · rw [users, userRoles, List.forall_mem_map]
    exact consistent.userRoles.usersKnown

-----------------------------------------------------------------------------------------
-- More roots and more grants
-----------------------------------------------------------------------------------------

/-- More orgs, all of them roots, and more grants, none of them to the user. -/
structure GrowsBeside (userId : UUID) (tables more : AccessTables) : Prop where
  roles : more.roles = tables.roles
  orgs
    : ∃ added, more.orgs = tables.orgs ++ added ∧ ∀ org ∈ added, org.parentOrgId = none
  userRoles
    : ∃ added, more.userRoles = tables.userRoles ++ added
      ∧ ∀ grant ∈ added, grant.userId ≠ userId

/-- The join goes through the grants one by one. -/
theorem matchedGrants_eq (tables : AccessTables) (chain : List ChainRow) (userId : UUID)
    (eligibleRoles : List String)
    : matchedGrants tables chain userId eligibleRoles
      = tables.userRoles.flatMap (grantMatches tables.roles chain userId eligibleRoles) :=
  rfl

section Grown

variable {userId : UUID} {tables more : AccessTables} (grows : GrowsBeside userId tables more)

include grows

/-- An org that was there is found as before. -/
theorem GrowsBeside.orgById {id : UUID} (known : id ∈ tables.orgs.map Org.id)
    : more.orgById id = tables.orgById id := by
  obtain ⟨added, orgs, _⟩ := grows.orgs
  rw [AccessTables.orgById, orgs, findBy_append known, AccessTables.orgById]

/-- The walk from an org that was there is the one from before, by induction on its steps. -/
theorem GrowsBeside.orgAbove
    (parents : ∀ org ∈ tables.orgs, NullOr (· ∈ tables.orgs.map Org.id) org.parentOrgId)
    {targetOrgId : UUID} (known : targetOrgId ∈ tables.orgs.map Org.id) (steps : Nat)
    : orgAbove more targetOrgId steps = orgAbove tables targetOrgId steps := by
  induction steps with
  | zero => rw [orgAbove_zero, orgAbove_zero, grows.orgById known]
  | succ steps ih =>
      rw [orgAbove_succ, orgAbove_succ, ih]
      refine Option.bind_congr fun org above => ?_
      have stored := (orgById_sound (orgAbove_stored above)).1
      have parentKnown := parents org stored
      unfold parentOrg
      cases link : org.parentOrgId with
      | none => rfl
      | some parent =>
          rw [link] at parentKnown
          exact grows.orgById parentKnown

/-- The orgs above a target that is new are new: there is only the target, a root. -/
theorem GrowsBeside.orgAbove_new {targetOrgId : UUID}
    (unknown : targetOrgId ∉ tables.orgs.map Org.id) {steps : Nat} {org : Org}
    (above : Auth.orgAbove more targetOrgId steps = some org)
    : org.id = targetOrgId := by
  obtain ⟨target, found, _⟩ := Option.bind_eq_some_iff.mp above
  obtain ⟨stored, sameId⟩ := orgById_sound found
  obtain ⟨added, orgs, roots⟩ := grows.orgs
  have isNew : target ∈ added := by
    rw [orgs] at stored
    rcases List.mem_append.mp stored with old | fresh
    · exact absurd (sameId ▸ List.mem_map_of_mem old) unknown
    · exact fresh
  rw [orgAbove_of_root found (roots target isNew) above]
  exact sameId

/-- The part of the recursive table at an org that was there is the one from before. -/
theorem GrowsBeside.orgChain_at
    (parents : ∀ org ∈ tables.orgs, NullOr (· ∈ tables.orgs.map Org.id) org.parentOrgId)
    (targetOrgId : UUID) {orgId : UUID} (known : orgId ∈ tables.orgs.map Org.id)
    : (orgChain more.orgs targetOrgId).filter (fun row => orgId = row.id)
      = (orgChain tables.orgs targetOrgId).filter (fun row => orgId = row.id) := by
  by_cases target : targetOrgId ∈ tables.orgs.map Org.id
  · simp only [orgChain_eq, grows.orgAbove parents target]
  · have apart (row : ChainRow) (member : row ∈ orgChain more.orgs targetOrgId)
        : ¬ orgId = row.id := by
      obtain ⟨k, _, org, above, rfl⟩ := mem_orgChain.mp member
      rintro rfl
      exact target (grows.orgAbove_new target above ▸ known)
    have none_ (row : ChainRow) (member : row ∈ orgChain tables.orgs targetOrgId)
        : ¬ orgId = row.id := by
      obtain ⟨k, _, org, above, rfl⟩ := mem_orgChain.mp member
      obtain ⟨first, found, _⟩ := Option.bind_eq_some_iff.mp above
      obtain ⟨stored, sameId⟩ := orgById_sound found
      exact absurd (sameId ▸ List.mem_map_of_mem stored) target
    rw [List.filter_eq_nil_iff.mpr fun row member => by simpa using apart row member,
      List.filter_eq_nil_iff.mpr fun row member => by simpa using none_ row member]

/-- The check has the result that it had before. -/
theorem GrowsBeside.checkPermission
    (parents : ∀ org ∈ tables.orgs, NullOr (· ∈ tables.orgs.map Org.id) org.parentOrgId)
    (grantOrgs : ∀ grant ∈ tables.userRoles, grant.orgId ∈ tables.orgs.map Org.id)
    {before after : User} (wasUser : before.id = userId) (isUser : after.id = userId)
    (permission : Permission) (targetOrgId : UUID)
    : Auth.checkPermission more after permission targetOrgId
      = Auth.checkPermission tables before permission targetOrgId := by
  obtain ⟨added, userRoles, others⟩ := grows.userRoles
  have matched (eligibleRoles : List String)
      : matchedGrants more (orgChain more.orgs targetOrgId) userId eligibleRoles
        = matchedGrants tables (orgChain tables.orgs targetOrgId) userId eligibleRoles := by
    rw [matchedGrants_eq, matchedGrants_eq, userRoles, List.flatMap_append, grows.roles]
    have nothing (grant : UserRole) (isNew : grant ∈ added)
        : grantMatches tables.roles (orgChain more.orgs targetOrgId) userId eligibleRoles grant
          = [] := by
      simp [grantMatches, others grant isNew]
    rw [List.flatMap_eq_nil_iff.mpr nothing, List.append_nil]
    refine List.flatMap_congr fun grant stored => ?_
    rw [grantMatches, grows.orgChain_at parents targetOrgId (grantOrgs grant stored),
      ← grantMatches]
  unfold Auth.checkPermission
  rw [wasUser, isUser]
  simp only [matched]

end Grown

-----------------------------------------------------------------------------------------
-- Calls that leave the tables of a check alone
-----------------------------------------------------------------------------------------

/-- The tables that a check reads stay, and no user is lost or moved. -/
structure KeepsAccess (before after : Database) : Prop where
  tables : after.toAccessTables = before.toAccessTables
  users : ∀ row ∈ before.users, ∃ next ∈ after.users, KeepsUser row next

theorem KeepsAccess.of_users {before after : Database}
    (tables : after.toAccessTables = before.toAccessTables) (users : after.users = before.users)
    : KeepsAccess before after :=
  ⟨tables, fun row stored => ⟨row, users ▸ stored, KeepsUser.refl row⟩⟩

theorem KeepsAccess.requests : KeptByRequests KeepsAccess where
  refl := fun _ => .of_users rfl rfl
  trans := by
    intro a b c first second
    refine ⟨second.tables.trans first.tables, fun row stored => ?_⟩
    obtain ⟨middle, kept, same⟩ := first.users row stored
    obtain ⟨next, keptAgain, sameAgain⟩ := second.users middle kept
    exact ⟨next, keptAgain, same.trans sameAgain⟩
  insertSession := by
    intro row db next ran
    obtain ⟨accepted, rfl⟩ := Database.insertSession_ok ran
    exact .of_users rfl rfl
  insertAuditLog := by
    intro row db next ran
    obtain rfl := Database.insertAuditLog_ok ran
    exact .of_users rfl rfl
  revoke := by
    intro sessionId now reason db next ran
    obtain rfl := Database.updateSession_ok ran
    exact .of_users rfl rfl

theorem KeepsAccess.touches : KeptByTouch KeepsAccess := by
  intro sessionId now db next ran
  obtain rfl := Database.updateSession_ok ran
  exact .of_users rfl rfl

theorem KeepsAccess.updates : KeptByUserUpdates KeepsAccess := by
  intro userId columns now db next ran
  have kept := KeepsHistory.updates userId columns now ran
  obtain rfl := Database.updateUser_ok ran
  exact ⟨rfl, kept.users⟩

/-- A handler whose own statements leave the tables of a check alone, however it ends. -/
def AccessKeepingHandler (handler : User → DbAction Unit) : Prop :=
  ∀ user, Action.Respects KeepsAccess (handler user)

/-- Only a bootstrap changes the tables of a check. -/
theorem serveService_keepsAccess (runtime : Runtime) (isPrintable : Char → Bool)
    {call : ServiceCall}
    (other
      : ∀ draws orgId email password name,
          call.request ≠ .bootstrap draws orgId email password name)
    (handled : call.request.HandledBy AccessKeepingHandler) (db : Database)
    : KeepsAccess db (serveService runtime isPrintable db call).2 :=
  serveService_grows KeepsAccess.requests KeepsAccess.touches runtime isPrintable call
    (fun draws payload request _ =>
      login_grows KeepsAccess.requests KeepsAccess.updates runtime draws call.now payload
        request)
    (fun draws orgId email password name asked =>
      absurd asked (other draws orgId email password name))
    handled db

-----------------------------------------------------------------------------------------
-- Over runs
-----------------------------------------------------------------------------------------

/-- The event is a bootstrap that has added the user at the org. -/
def Bootstraps (userId orgId : UUID) : ServiceEvent → Prop
  | (⟨_, .bootstrap draws org _ _ _⟩, .bootstrapped true) => draws.userId = userId ∧ org = orgId
  | _ => False

/-- What a history has left of the tables of a check and of the users. -/
structure Standing (initial : Database) (history : List ServiceEvent) (db : Database)
    : Prop where
  roles : db.roles = initial.roles
  orgs : ∃ added, db.orgs = initial.orgs ++ added ∧ ∀ org ∈ added, org.parentOrgId = none
  userRoles
    : ∃ added, db.userRoles = initial.userRoles ++ added
      ∧ ∀ grant ∈ added,
          grant.userId ∉ initial.users.map User.id
          ∧ ∃ event ∈ history, Bootstraps grant.userId grant.orgId event
  users : ∀ row ∈ initial.users, ∃ next ∈ db.users, KeepsUser row next

section Runs

variable {initial state after : Database} {history : List ServiceEvent} {event : ServiceEvent}

theorem Standing.start (initial : Database) : Standing initial [] initial where
  roles := rfl
  orgs := ⟨[], by simp, nofun⟩
  userRoles := ⟨[], by simp, nofun⟩
  users := fun row stored => ⟨row, stored, KeepsUser.refl row⟩

theorem Standing.of_keeps (standing : Standing initial history state)
    (keeps : KeepsAccess state after)
    : Standing initial (event :: history) after := by
  obtain ⟨roles, orgs, ⟨added, userRoles, bootstrapped⟩, users⟩ := standing
  have same := keeps.tables
  refine ⟨?_, ?_, ⟨added, ?_, fun grant isNew => ?_⟩, fun row stored => ?_⟩
  · exact (congrArg AccessTables.roles same).trans roles
  · rw [same]
    exact orgs
  · exact (congrArg AccessTables.userRoles same).trans userRoles
  · obtain ⟨fresh, event, happened, bootstraps⟩ := bootstrapped grant isNew
    exact ⟨fresh, event, List.mem_cons_of_mem _ happened, bootstraps⟩
  · obtain ⟨middle, kept, sameUser⟩ := users row stored
    obtain ⟨next, keptAgain, sameAgain⟩ := keeps.users middle kept
    exact ⟨next, keptAgain, sameUser.trans sameAgain⟩

/-- A bootstrap adds its root and grants to a user of its own. -/
theorem Standing.of_adds (standing : Standing initial history state) {orgId : UUID} {user : User}
    {adminRole developerRole : Role}
    (adds : AddsAccount orgId user adminRole developerRole state after)
    (fresh : user.id ∉ state.users.map User.id) (bootstraps : Bootstraps user.id orgId event)
    : Standing initial (event :: history) after := by
  obtain ⟨roles, ⟨orgs, sameOrgs, roots⟩, ⟨grants, userRoles, bootstrapped⟩, users⟩ := standing
  have freshAtStart : user.id ∉ initial.users.map User.id := by
    intro known
    obtain ⟨row, stored, sameId⟩ := List.mem_map.mp known
    obtain ⟨next, kept, same⟩ := users row stored
    exact fresh (sameId ▸ same.id ▸ List.mem_map_of_mem kept)
  refine ⟨adds.roles.trans roles, ?_, ?_, fun row stored => ?_⟩
  · by_cases absent : state.orgById orgId = none
    · refine ⟨orgs ++ [specterOrg orgId], ?_, ?_⟩
      · rw [adds.orgAdded absent, sameOrgs, List.append_assoc]
      · intro org isNew
        rcases List.mem_append.mp isNew with earlier | last
        · exact roots org earlier
        · rw [List.mem_singleton.mp last]
          rfl
    · exact ⟨orgs, (adds.orgKept absent).trans sameOrgs, roots⟩
  · refine ⟨grants ++ [adminRole, developerRole].map (bootstrapGrant user.id orgId), ?_, ?_⟩
    · rw [adds.userRoles, userRoles, List.append_assoc]
      rfl
    · intro grant isNew
      rcases List.mem_append.mp isNew with earlier | last
      · obtain ⟨unknown, event, happened, did⟩ := bootstrapped grant earlier
        exact ⟨unknown, event, List.mem_cons_of_mem _ happened, did⟩
      · obtain ⟨role, _, rfl⟩ := List.mem_map.mp last
        exact ⟨freshAtStart, event, List.mem_cons_self, bootstraps⟩
  · obtain ⟨next, kept, same⟩ := users row stored
    exact ⟨next, adds.users ▸ List.mem_append_left _ kept, same⟩

end Runs

section Service

variable {runtime : Runtime} {isPrintable : Char → Bool} {initial db : Database}
  {history : List ServiceEvent}

/-- One call leaves the tables as the history with it says. -/
theorem Standing.next {call : ServiceCall} {answer : ServiceAnswer} {after : Database}
    (standing : Standing initial history db)
    (handled : call.request.HandledBy AccessKeepingHandler)
    (answered : serveService runtime isPrintable db call = (answer, after))
    : Standing initial ((call, answer) :: history) after := by
  by_cases asked
    : ∃ draws orgId email password name,
        call.request = .bootstrap draws orgId email password name
  · obtain ⟨now, request⟩ := call
    obtain ⟨draws, orgId, email, password, name, rfl⟩ := asked
    obtain ⟨outcome, ended, ways, ran⟩ :=
      bootstrap_cases runtime isPrintable draws now orgId email password name db
    unfold serveService at answered
    simp only [ran] at answered
    cases ways with
    | idle =>
        obtain ⟨rfl, rfl⟩ := Prod.ext_iff.mp answered
        exact standing.of_keeps (.of_users rfl rfl)
    | raised =>
        obtain ⟨rfl, rfl⟩ := Prod.ext_iff.mp answered
        exact standing.of_keeps (.of_users rfl rfl)
    | performed _ proceeds adds =>
        obtain ⟨rfl, rfl⟩ := Prod.ext_iff.mp answered
        exact standing.of_adds adds proceeds.userId ⟨rfl, rfl⟩
  · push Not at asked
    have keeps := serveService_keepsAccess runtime isPrintable asked handled db
    rw [answered] at keeps
    exact standing.of_keeps keeps

/-- Any run leaves the tables as its history says, by induction on it. -/
theorem Standing.of_run
    (ran
      : ServiceRuns runtime isPrintable
          (fun _ call => call.request.HandledBy AccessKeepingHandler) initial history db)
    : Standing initial history db := by
  induction ran with
  | start => exact Standing.start initial
  | next _ stepped ih => exact ih.next stepped.1 stepped.2

theorem Standing.growsBeside (standing : Standing initial history db) {userId : UUID}
    (known : userId ∈ initial.users.map User.id)
    : GrowsBeside userId initial.toAccessTables db.toAccessTables := by
  refine ⟨standing.roles, standing.orgs, ?_⟩
  obtain ⟨added, userRoles, bootstrapped⟩ := standing.userRoles
  refine ⟨added, userRoles, fun grant isNew same => ?_⟩
  exact (bootstrapped grant isNew).1 (same ▸ known)

/-- Whoever was not there at the start is allowed what is below an org of their bootstrap. -/
theorem Standing.bootstrapped (standing : Standing initial history db)
    (grantUsers : ∀ grant ∈ initial.userRoles, grant.userId ∈ initial.users.map User.id)
    {user : User} (isNew : user.id ∉ initial.users.map User.id) {permission : Permission}
    {targetOrgId : UUID}
    (allowed : (checkPermission db.toAccessTables user permission targetOrgId).allowed = true)
    : ∃ orgId,
        (∃ event ∈ history, Bootstraps user.id orgId event)
        ∧ ∃ k ≤ maxHierarchyDepth, ∃ org,
            orgAbove db.toAccessTables targetOrgId k = some org ∧ org.id = orgId := by
  rcases checkPermission_cases db.toAccessTables user permission targetOrgId with
    ⟨k, capped, org, role, first, grants, _⟩ | ⟨_, denied⟩
  · obtain ⟨grant, stored, ofUser, atOrg, _⟩ := grants.granted
    obtain ⟨added, userRoles, bootstrapped⟩ := standing.userRoles
    rw [userRoles] at stored
    rcases List.mem_append.mp stored with old | fresh
    · exact absurd (ofUser ▸ grantUsers grant old) isNew
    · obtain ⟨_, event, happened, did⟩ := bootstrapped grant fresh
      rw [ofUser, atOrg] at did
      exact ⟨org.id, ⟨event, happened, did⟩, k, capped, org, first.met.1, rfl⟩
  · rw [denied] at allowed
    cases allowed

/-- No run of the service changes what a user may do who was there before it: every check has
the result that it had, for each permission and each target, also a target that has come since.
Any other user is allowed something only within the cap below an org at which a bootstrap of the
run has added them.
-/
theorem decisions_stand (runtime : Runtime) (isPrintable : Char → Bool)
    (initial db : Database) (history : List ServiceEvent) (references : AccessReferences initial)
    (ran
      : ServiceRuns runtime isPrintable
          (fun _ call => call.request.HandledBy AccessKeepingHandler) initial history db)
    : (∀ user ∈ initial.users, ∃ next ∈ db.users,
        KeepsUser user next
        ∧ ∀ permission targetOrgId,
            checkPermission db.toAccessTables next permission targetOrgId
            = checkPermission initial.toAccessTables user permission targetOrgId)
      ∧ ∀ user : User, user.id ∉ initial.users.map User.id
          → ∀ permission targetOrgId,
              (checkPermission db.toAccessTables user permission targetOrgId).allowed = true
              → ∃ orgId,
                  (∃ event ∈ history, Bootstraps user.id orgId event)
                  ∧ ∃ k ≤ maxHierarchyDepth, ∃ org,
                      orgAbove db.toAccessTables targetOrgId k = some org
                      ∧ org.id = orgId := by
  have standing := Standing.of_run ran
  constructor
  · intro user stored
    obtain ⟨next, kept, same⟩ := standing.users user stored
    have grows := standing.growsBeside (List.mem_map_of_mem stored)
    exact ⟨next, kept, same,
      grows.checkPermission references.parents references.grantOrgs rfl same.id⟩
  · intro user isNew permission targetOrgId
    exact standing.bootstrapped references.grantUsers isNew

end Service

-----------------------------------------------------------------------------------------
-- A sign-in
-----------------------------------------------------------------------------------------

/-- After the sign-in the sample user may invite users to the org as before. -/
theorem sampleSignIn_decisions_stand
    : ∃ next ∈ (serveSample sampleDatabase sampleSignIn).2.users,
        KeepsUser sampleUser next
        ∧ (checkPermission (serveSample sampleDatabase sampleSignIn).2.toAccessTables next
            .userInvite 1).allowed
          = true := by
  obtain ⟨next, kept, same, stands⟩ :=
    (decisions_stand sampleRuntime (fun _ => true) sampleDatabase
      (serveSample sampleDatabase sampleSignIn).2 _ ⟨by decide, by decide, by decide⟩
      (Runs.serve .start sampleSignIn trivial)).1 sampleUser List.mem_cons_self
  refine ⟨next, kept, same, ?_⟩
  rw [stands]
  decide

end SpecterCloud.Service
