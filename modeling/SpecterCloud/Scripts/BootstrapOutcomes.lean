import SpecterCloud.Scripts.Bootstrap

/-! The three ways a bootstrap can end. Only a run that returns True leaves anything behind, and
then it leaves all of its rows.
-/

namespace SpecterCloud.Scripts

open SpecterCloud.Foundations
open SpecterCloud.Models
open SpecterCloud.Core
open SpecterCloud.Auth

/-- The `admin` role exists, and the org has an unrevoked grant of it. -/
def Administered (orgId : UUID) (db : Database) : Prop :=
  ∃ role ∈ db.roles,
    role.name = "admin"
    ∧ ∃ grant ∈ db.userRoles,
        grant.orgId = orgId ∧ grant.roleId = role.id ∧ grant.revokedAt = none

/-- The rows that a run adds: the org if it is absent, one user, and two grants. -/
structure AddsAccount (orgId : UUID) (user : User) (adminRole developerRole : Role)
    (before after : Database)
    : Prop where
  orgKept : before.orgById orgId ≠ none → after.orgs = before.orgs
  orgAdded : before.orgById orgId = none → after.orgs = before.orgs ++ [specterOrg orgId]
  users : after.users = before.users ++ [user]
  userRoles
    : after.userRoles
      = before.userRoles
        ++ [bootstrapGrant user.id orgId adminRole, bootstrapGrant user.id orgId developerRole]
  roles : after.roles = before.roles
  sessions : after.sessions = before.sessions
  auditLog : after.auditLog = before.auditLog

section Ends

variable (runtime : Runtime) (isPrintable : Char → Bool) (draws : BootstrapDraws)
  (now : Instant) (orgId : UUID) (email password name : String) (before : Database)

/-- What a run has to find in order to add its rows. -/
structure Proceeds (adminRole developerRole : Role) : Prop where
  admin : roleByName "admin" before = some adminRole
  ungranted : activeGrant orgId adminRole.id before = none
  slug : before.orgById orgId = none → "specter" ∉ before.orgs.map Org.slug
  unknown : normalizeEmail runtime email ∉ before.users.map User.email
  password : password ≠ ""
  email : FitsString 254 (normalizeEmail runtime email)
  name : FitsString 120 (strip name)
  userId : draws.userId ∉ before.users.map User.id
  developer : roleByName "developer" before = some developerRole
  grants
    : ∀ role ∈ [adminRole, developerRole],
        (bootstrapGrant draws.userId orgId role).key ∉ before.userRoles.map UserRole.key

/-- Why a run raises: a role is missing, a query cannot be sent, there is no password, or a row
is rejected.
-/
inductive Blocked : Prop
  | noAdmin (missing : roleByName "admin" before = none)
  | slugTaken (absent : before.orgById orgId = none)
      (taken : "specter" ∈ before.orgs.map Org.slug)
  | emailUnsendable (unstorable : ¬ Storable (normalizeEmail runtime email))
  | emailTaken (taken : normalizeEmail runtime email ∈ before.users.map User.email)
  | emptyPassword (empty : password = "")
  | userUnfit
      (unfit : ¬ (FitsString 254 (normalizeEmail runtime email) ∧ FitsString 120 (strip name)))
  | userIdTaken (taken : draws.userId ∈ before.users.map User.id)
  | noDeveloper (missing : roleByName "developer" before = none)
  | grantTaken {role : Role}
      (granted
        : roleByName "admin" before = some role ∨ roleByName "developer" before = some role)
      (taken
        : (bootstrapGrant draws.userId orgId role).key ∈ before.userRoles.map UserRole.key)

/-- Every way a run can end: what it returns or raises, and what is then committed. -/
inductive BootstrapEnds : Except Raised Bool → Database → Prop
  | idle (administered : Administered orgId before) : BootstrapEnds (.ok false) before
  | raised {error : Raised} (unadministered : ¬ Administered orgId before)
      (blocked : Blocked runtime draws orgId email password name before)
      : BootstrapEnds (.error error) before
  | performed {after : Database} {passwordHash : String} {adminRole developerRole : Role}
      (hashed : hashPassword runtime draws.salt password = .ok passwordHash)
      (proceeds
        : Proceeds runtime draws orgId email password name before adminRole developerRole)
      (adds
        : AddsAccount orgId
            (bootstrapUser draws now orgId (normalizeEmail runtime email) passwordHash
              (strip name))
            adminRole developerRole before after)
      : BootstrapEnds (.ok true) after

/-- What the transaction reads once the org is there. -/
structure OrgPresent (view : Database) : Prop where
  org : orgId ∈ view.orgs.map Org.id
  orgKept : before.orgById orgId ≠ none → view.orgs = before.orgs
  orgAdded : before.orgById orgId = none → view.orgs = before.orgs ++ [specterOrg orgId]
  slug : before.orgById orgId = none → "specter" ∉ before.orgs.map Org.slug
  users : view.users = before.users
  userRoles : view.userRoles = before.userRoles
  roles : view.roles = before.roles
  sessions : view.sessions = before.sessions
  auditLog : view.auditLog = before.auditLog

variable {runtime isPrintable draws now orgId email password name before}
  {adminRole developerRole : Role}

/-- A run that finds what it needs is not blocked. -/
theorem Proceeds.unblocked
    (proceeds : Proceeds runtime draws orgId email password name before adminRole developerRole)
    : ¬ Blocked runtime draws orgId email password name before := by
  intro blocked
  cases blocked with
  | noAdmin missing => cases missing.symm.trans proceeds.admin
  | slugTaken absent taken => exact proceeds.slug absent taken
  | emailUnsendable unstorable => exact unstorable proceeds.email.2
  | emailTaken taken => exact proceeds.unknown taken
  | emptyPassword empty => exact proceeds.password empty
  | userUnfit unfit => exact unfit ⟨proceeds.email, proceeds.name⟩
  | userIdTaken taken => exact proceeds.userId taken
  | noDeveloper missing => cases missing.symm.trans proceeds.developer
  | grantTaken granted taken =>
      rcases granted with admin | developer
      · cases admin.symm.trans proceeds.admin
        exact proceeds.grants _ (.head _) taken
      · cases developer.symm.trans proceeds.developer
        exact proceeds.grants _ (.tail _ (.head _)) taken

/-- An org is administered exactly when the query for an active grant finds one. -/
theorem administered_iff (admin : roleByName "admin" before = some adminRole)
    : Administered orgId before ↔ activeGrant orgId adminRole.id before ≠ none := by
  obtain ⟨stored, named⟩ := findBy_sound admin
  have active
      : activeGrant orgId adminRole.id before ≠ none
        ↔ ∃ grant ∈ before.userRoles,
            grant.orgId = orgId ∧ grant.roleId = adminRole.id ∧ grant.revokedAt = none := by
    simp [activeGrant, List.find?_eq_none]
  rw [active]
  constructor
  · rintro ⟨role, storedRole, name, grant⟩
    obtain rfl := eq_of_key_eq before.roleNames storedRole stored (name.trans named.symm)
    exact grant
  · exact fun grant => ⟨adminRole, stored, named, grant⟩

/-- Without an `admin` role no org is administered. -/
theorem not_administered (missing : roleByName "admin" before = none)
    : ¬ Administered orgId before := by
  rintro ⟨role, stored, named, _⟩
  exact findBy_eq_none.mp missing (List.mem_map.mpr ⟨role, stored, named⟩)

/-- A run that finds what it needs is at an org without an administrator. -/
theorem Proceeds.unadministered
    (proceeds : Proceeds runtime draws orgId email password name before adminRole developerRole)
    : ¬ Administered orgId before := by
  rw [administered_iff proceeds.admin]
  exact not_not.mpr proceeds.ungranted

theorem specterOrg_fits (orgId : UUID) : (specterOrg orgId).Fits :=
  ⟨show FitsString 120 "Specter" by decide, show FitsString 60 "specter" by decide⟩

-----------------------------------------------------------------------------------------
-- Along the steps of a run
-----------------------------------------------------------------------------------------

/-- The two grants are accepted where the user, the org and the roles are, unless one of them is
there already.
-/
theorem runAll_grants {view : Database} {userId : UUID}
    (user : userId ∈ view.users.map User.id) (org : orgId ∈ view.orgs.map Org.id)
    (admin : adminRole ∈ view.roles) (developer : developerRole ∈ view.roles)
    (apart : adminRole.id ≠ developerRole.id)
    (fresh
      : ∀ role ∈ [adminRole, developerRole],
          (bootstrapGrant userId orgId role).key ∉ view.userRoles.map UserRole.key)
    : ∃ after,
        runAll
          ([adminRole, developerRole].map
            (fun role => Database.insertUserRole (bootstrapGrant userId orgId role)))
          view
          = .ok after
        ∧ after.orgs = view.orgs
        ∧ after.users = view.users
        ∧ after.userRoles
          = view.userRoles
            ++ [bootstrapGrant userId orgId adminRole, bootstrapGrant userId orgId developerRole]
        ∧ after.roles = view.roles
        ∧ after.sessions = view.sessions
        ∧ after.auditLog = view.auditLog := by
  have accepted : view.AcceptsUserRole (bootstrapGrant userId orgId adminRole) :=
    ⟨fresh _ (.head _), user, org, List.mem_map_of_mem admin⟩
  have freshNext
      : (bootstrapGrant userId orgId developerRole).key
        ∉ (view.withUserRole _ accepted).userRoles.map UserRole.key := by
    show _ ∉ (view.userRoles ++ [_]).map UserRole.key
    rw [List.map_append, List.mem_append]
    rintro (taken | same)
    · exact fresh _ (.tail _ (.head _)) taken
    · have key := List.mem_singleton.mp same
      exact apart (congrArg (fun key => key.2.2) key).symm
  have acceptedNext
      : (view.withUserRole _ accepted).AcceptsUserRole
          (bootstrapGrant userId orgId developerRole) :=
    ⟨freshNext, user, org, List.mem_map_of_mem developer⟩
  refine ⟨(view.withUserRole _ accepted).withUserRole _ acceptedNext, ?_, rfl, rfl, ?_, rfl, rfl,
    rfl⟩
  · rw [List.map_cons, List.map_cons, List.map_nil, runAll_cons,
      Database.insertUserRole_accepted accepted]
    show runAll [Database.insertUserRole (bootstrapGrant userId orgId developerRole)] _ = _
    rw [runAll_cons, Database.insertUserRole_accepted acceptedNext]
    rfl
  · exact List.append_assoc _ _ _

/-- If one of the two grants is there already, an insert raises. -/
theorem runAll_grants_taken {view : Database} {userId : UUID} {role : Role}
    (granted : role ∈ [adminRole, developerRole])
    (taken : (bootstrapGrant userId orgId role).key ∈ view.userRoles.map UserRole.key)
    : ∃ error,
        runAll
          ([adminRole, developerRole].map
            (fun role => Database.insertUserRole (bootstrapGrant userId orgId role)))
          view
        = .error error := by
  cases ran
      : runAll
          ([adminRole, developerRole].map
            (fun role => Database.insertUserRole (bootstrapGrant userId orgId role)))
          view with
  | error error => exact ⟨error, rfl⟩
  | ok after =>
      obtain ⟨first, accepts, ran⟩ := runAll_cons_ok ran
      obtain ⟨second, acceptsNext, _⟩ := runAll_cons_ok ran
      obtain ⟨accepted, rfl⟩ := Database.insertUserRole_ok accepts
      obtain ⟨acceptedNext, rfl⟩ := Database.insertUserRole_ok acceptsNext
      refine absurd taken ?_
      rcases List.mem_cons.mp granted with rfl | granted
      · exact accepted.freshKey
      · obtain rfl := List.mem_singleton.mp granted
        intro known
        refine acceptedNext.freshKey ?_
        show _ ∈ (view.userRoles ++ [_]).map UserRole.key
        rw [List.map_append]
        exact List.mem_append_left _ known

/-- The roles of a grant that is there already are found, and so block the run. -/
theorem blocked_of_grant {role : Role} (admin : roleByName "admin" before = some adminRole)
    (developer : roleByName "developer" before = some developerRole)
    (granted : role ∈ [adminRole, developerRole])
    (taken
      : (bootstrapGrant draws.userId orgId role).key ∈ before.userRoles.map UserRole.key)
    : Blocked runtime draws orgId email password name before := by
  rcases List.mem_cons.mp granted with rfl | granted
  · exact .grantTaken (.inl admin) taken
  · obtain rfl := List.mem_singleton.mp granted
    exact .grantTaken (.inr developer) taken

/-- The roles that a run grants are two. -/
theorem grantedRoles_apart (admin : roleByName "admin" before = some adminRole)
    (developer : roleByName "developer" before = some developerRole)
    : adminRole.id ≠ developerRole.id := by
  obtain ⟨storedAdmin, adminName⟩ := findBy_sound admin
  obtain ⟨storedDeveloper, developerName⟩ := findBy_sound developer
  intro same
  have role := eq_of_key_eq before.roleIds storedAdmin storedDeveloper same
  rw [role, developerName] at adminName
  exact absurd adminName (by decide)

/-- From the user on, a run grants both roles or raises. -/
theorem grantRolesSteps_ends {view : Database} {passwordHash : String}
    (present : OrgPresent orgId before view) (admin : roleByName "admin" before = some adminRole)
    (ungranted : activeGrant orgId adminRole.id before = none)
    (hashed : hashPassword runtime draws.salt password = .ok passwordHash)
    (accepted
      : view.AcceptsUser
          (bootstrapUser draws now orgId (normalizeEmail runtime email) passwordHash
            (strip name)))
    : ∃ outcome after,
        BootstrapEnds runtime draws now orgId email password name before outcome after
        ∧ (grantRolesSteps orgId draws.userId adminRole).alone (view.withUser _ accepted) before
          = (outcome, after) := by
  have unadministered : ¬ Administered orgId before := by
    rw [administered_iff admin]
    exact not_not.mpr ungranted
  have roles : (view.withUser _ accepted).roles = before.roles := present.roles
  have userRoles : (view.withUser _ accepted).userRoles = before.userRoles := present.userRoles
  rw [grantRolesSteps, Transaction.alone,
    show roleByName "developer" (view.withUser _ accepted) = roleByName "developer" before by
      rw [roleByName, roleByName, roles]]
  cases developer : roleByName "developer" before with
  | none => exact ⟨_, _, .raised unadministered (.noDeveloper developer), rfl⟩
  | some developerRole =>
      have storedAdmin : adminRole ∈ before.roles := (findBy_sound admin).1
      have storedDeveloper : developerRole ∈ before.roles := (findBy_sound developer).1
      by_cases fresh
          : ∀ role ∈ [adminRole, developerRole],
              (bootstrapGrant draws.userId orgId role).key ∉ before.userRoles.map UserRole.key
      · have stored
            : draws.userId ∈ (view.withUser _ accepted).users.map User.id := by
          show _ ∈ (view.users ++ [_]).map User.id
          simp [bootstrapUser]
        obtain ⟨after, ran, orgs, users, granted, sameRoles, sessions, auditLog⟩ :=
          runAll_grants stored present.org (roles.symm ▸ storedAdmin)
            (roles.symm ▸ storedDeveloper) (grantedRoles_apart admin developer)
            (userRoles.symm ▸ fresh)
        have proceeds
            : Proceeds runtime draws orgId email password name before adminRole developerRole :=
            {
              admin
              ungranted
              slug := present.slug
              unknown := present.users ▸ accepted.freshEmail
              password := hashPassword_present hashed
              email := accepted.fits.email
              name := accepted.fits.name
              userId := present.users ▸ accepted.freshId
              developer
              grants := fresh
            }
        refine ⟨.ok true, after, .performed hashed proceeds ?_, Transaction.alone_executeAll ran⟩
        exact
            {
              orgKept := fun kept => orgs.trans (present.orgKept kept)
              orgAdded := fun absent => orgs.trans (present.orgAdded absent)
              users := by rw [users, ← present.users]; rfl
              userRoles := by rw [granted, userRoles]; rfl
              roles := sameRoles.trans roles
              sessions := sessions.trans present.sessions
              auditLog := auditLog.trans present.auditLog
            }
      · simp only [not_forall, not_not] at fresh
        obtain ⟨role, granted, taken⟩ := fresh
        have blocked : Blocked runtime draws orgId email password name before :=
          blocked_of_grant admin developer granted taken
        obtain ⟨error, ran⟩ := runAll_grants_taken granted (userRoles.symm ▸ taken)
        exact ⟨.error error, before, .raised unadministered blocked,
          Transaction.alone_executeAll_error ran⟩

/-- Once the org is there, a run adds its user and grants or raises. -/
theorem createAdminSteps_ends {view : Database} (present : OrgPresent orgId before view)
    (admin : roleByName "admin" before = some adminRole)
    (ungranted : activeGrant orgId adminRole.id before = none)
    : ∃ outcome after,
        BootstrapEnds runtime draws now orgId email password name before outcome after
        ∧ (createAdminSteps runtime isPrintable draws now orgId (normalizeEmail runtime email)
            password (strip name) adminRole).alone view before
          = (outcome, after) := by
  have unadministered : ¬ Administered orgId before := by
    rw [administered_iff admin]
    exact not_not.mpr ungranted
  have same := Database.userByEmail_congr present.users (normalizeEmail runtime email)
  rw [createAdminSteps, Transaction.alone, same]
  by_cases storable : Storable (normalizeEmail runtime email)
  · rw [Database.userByEmail, if_pos storable]
    cases known : findBy User.email (normalizeEmail runtime email) before.users with
    | some user =>
        obtain ⟨stored, taken⟩ := findBy_sound known
        refine ⟨_, _, .raised unadministered (.emailTaken ?_), rfl⟩
        exact List.mem_map.mpr ⟨user, stored, taken⟩
    | none =>
        have unknown := findBy_eq_none.mp known
        cases hashed : hashPassword runtime draws.salt password with
        | error error =>
            have empty := hashPassword_refuses hashed
            exact ⟨_, _, .raised unadministered (.emptyPassword empty), rfl⟩
        | ok passwordHash =>
            by_cases accepted
                : view.AcceptsUser
                    (bootstrapUser draws now orgId (normalizeEmail runtime email) passwordHash
                      (strip name))
            · simp only [Transaction.alone, insertUserStatement,
                Database.insertUser_accepted accepted]
              exact grantRolesSteps_ends present admin ungranted hashed accepted
            · have blocked : Blocked runtime draws orgId email password name before := by
                by_cases taken : draws.userId ∈ before.users.map User.id
                · exact .userIdTaken taken
                refine .userUnfit fun fits => accepted ?_
                exact ⟨⟨fits.1, hashPassword_fits hashed, fits.2⟩, present.users.symm ▸ taken,
                  present.users.symm ▸ unknown, present.org⟩
              simp only [Transaction.alone, insertUserStatement]
              cases ran
                  : view.insertUser
                      (bootstrapUser draws now orgId (normalizeEmail runtime email) passwordHash
                        (strip name)) with
              | error error => exact ⟨_, _, .raised unadministered blocked, rfl⟩
              | ok after =>
                  obtain ⟨accepts, _⟩ := Database.insertUser_ok ran
                  exact absurd accepts accepted
  · rw [Database.userByEmail, if_neg storable]
    exact ⟨_, _, .raised unadministered (.emailUnsendable storable), rfl⟩

/-- A run ends in one of the listed ways. -/
theorem bootstrap_cases (runtime : Runtime) (isPrintable : Char → Bool) (draws : BootstrapDraws)
    (now : Instant) (orgId : UUID) (email password name : String) (before : Database)
    : ∃ outcome after,
        BootstrapEnds runtime draws now orgId email password name before outcome after
        ∧ (bootstrap runtime isPrintable draws now orgId email password name).perform before
          = (outcome, after) := by
  rw [(bootstrap_steps runtime isPrintable draws now orgId email password name).perform,
    bootstrapSteps, Transaction.alone]
  cases admin : roleByName "admin" before with
  | none => exact ⟨_, _, .raised (not_administered admin) (.noAdmin admin), rfl⟩
  | some adminRole =>
      simp only [Transaction.alone]
      cases active : activeGrant orgId adminRole.id before with
      | some grant =>
          refine ⟨_, _, .idle ((administered_iff admin).mpr ?_), rfl⟩
          rw [active]
          exact Option.some_ne_none grant
      | none =>
          simp only [Transaction.alone]
          cases org : before.orgById orgId with
          | some found =>
              obtain ⟨stored, same⟩ := findBy_sound org
              have kept : before.orgById orgId ≠ none := by simp [org]
              refine createAdminSteps_ends ?_ admin active
              exact ⟨List.mem_map.mpr ⟨found, stored, same⟩, fun _ => rfl,
                fun absent => absurd absent kept, fun absent => absurd absent kept, rfl, rfl, rfl,
                rfl, rfl⟩
          | none =>
              by_cases taken : "specter" ∈ before.orgs.map Org.slug
              · have unadministered : ¬ Administered orgId before := by
                  rw [administered_iff admin]
                  exact not_not.mpr active
                simp only [Transaction.alone, insertOrgStatement]
                cases ran : before.insertOrg (specterOrg orgId) with
                | error error => exact ⟨_, _, .raised unadministered (.slugTaken org taken), rfl⟩
                | ok after =>
                    obtain ⟨accepted, _⟩ := Database.insertOrg_ok ran
                    exact absurd taken accepted.freshSlug
              · have accepted : before.AcceptsOrg (specterOrg orgId) :=
                  ⟨specterOrg_fits orgId, findBy_eq_none.mp org, taken⟩
                simp only [Transaction.alone, insertOrgStatement,
                  Database.insertOrg_accepted accepted]
                refine createAdminSteps_ends ?_ admin active
                have added
                    : (specterOrg orgId).id ∈ (before.orgs ++ [specterOrg orgId]).map Org.id :=
                  List.mem_map_of_mem (by simp)
                exact ⟨added, fun kept => absurd org kept, fun _ => rfl, fun _ => taken, rfl, rfl,
                  rfl, rfl, rfl⟩

/-- A run at an org with an administrator is a no-op. -/
theorem bootstrap_idle (administered : Administered orgId before)
    : (bootstrap runtime isPrintable draws now orgId email password name).perform before
      = (.ok false, before) := by
  obtain ⟨outcome, after, ways, ran⟩ :=
    bootstrap_cases runtime isPrintable draws now orgId email password name before
  cases ways with
  | idle => exact ran
  | raised unadministered => exact absurd administered unadministered
  | performed _ proceeds => exact absurd administered proceeds.unadministered

/-- The rows that a run adds give the org an administrator. -/
theorem AddsAccount.administered {user : User} {after : Database}
    (adds : AddsAccount orgId user adminRole developerRole before after)
    (admin : roleByName "admin" before = some adminRole)
    : Administered orgId after := by
  obtain ⟨stored, named⟩ := findBy_sound admin
  refine ⟨adminRole, adds.roles.symm ▸ stored, named, bootstrapGrant user.id orgId adminRole, ?_,
    rfl, rfl, rfl⟩
  rw [adds.userRoles]
  simp

end Ends

/-- For every database and all arguments a bootstrap ends in one of three ways: it returns False,
exactly at an org with an administrator, and changes nothing; or it raises, exactly when it is
blocked at an org without one, and changes nothing; or it returns True, exactly when it finds
all that it needs, and adds exactly its rows. From then on every run for the org is a no-op
while the org has an administrator.
-/
theorem bootstrap_all_or_nothing (runtime : Runtime) (isPrintable : Char → Bool)
    (draws : BootstrapDraws) (now : Instant) (orgId : UUID) (email password name : String)
    (before : Database)
    : let ended :=
        (bootstrap runtime isPrintable draws now orgId email password name).perform before
      (ended.1 = .ok false ↔ Administered orgId before)
      ∧ (ended.1 = .ok false → ended.2 = before)
      ∧ ((∃ error, ended.1 = .error error)
        ↔ ¬ Administered orgId before
          ∧ Blocked runtime draws orgId email password name before)
      ∧ ((∃ error, ended.1 = .error error) → ended.2 = before)
      ∧ (ended.1 = .ok true
        ↔ ∃ adminRole developerRole,
            Proceeds runtime draws orgId email password name before adminRole developerRole)
      ∧ (ended.1 = .ok true
        → ∃ passwordHash adminRole developerRole,
            hashPassword runtime draws.salt password = .ok passwordHash
            ∧ roleByName "admin" before = some adminRole
            ∧ roleByName "developer" before = some developerRole
            ∧ AddsAccount orgId
                (bootstrapUser draws now orgId (normalizeEmail runtime email) passwordHash
                  (strip name))
                adminRole developerRole before ended.2)
      ∧ (ended.1 = .ok true → Administered orgId ended.2)
      ∧ ∀ later draws now email password name,
          Administered orgId later
          → (bootstrap runtime isPrintable draws now orgId email password name).perform later
            = (.ok false, later) := by
  intro ended
  have idle
      : ∀ later draws now email password name,
          Administered orgId later
          → (bootstrap runtime isPrintable draws now orgId email password name).perform later
            = (.ok false, later) :=
    fun _ _ _ _ _ _ => bootstrap_idle
  obtain ⟨outcome, after, ways, ran⟩ :=
    bootstrap_cases runtime isPrintable draws now orgId email password name before
  rw [show ended = (outcome, after) from ran]
  cases ways with
  | idle administered =>
      refine ⟨iff_of_true rfl administered, fun _ => rfl, iff_of_false ?_ ?_, fun _ => rfl,
        iff_of_false ?_ ?_, ?_, ?_, idle⟩
      · simp
      · exact fun blocked => blocked.1 administered
      · simp
      · rintro ⟨_, _, proceeds⟩
        exact proceeds.unadministered administered
      · simp
      · simp
  | raised unadministered blocked =>
      refine ⟨iff_of_false ?_ unadministered, ?_, iff_of_true ⟨_, rfl⟩ ⟨unadministered, blocked⟩,
        fun _ => rfl, iff_of_false ?_ ?_, ?_, ?_, idle⟩
      · simp
      · simp
      · simp
      · rintro ⟨_, _, proceeds⟩
        exact proceeds.unblocked blocked
      · simp
      · simp
  | performed hashed proceeds adds =>
      refine ⟨iff_of_false ?_ proceeds.unadministered, ?_, iff_of_false ?_ ?_, ?_,
        iff_of_true rfl ⟨_, _, proceeds⟩, ?_, ?_, idle⟩
      · simp
      · simp
      · simp
      · exact fun blocked => proceeds.unblocked blocked.2
      · simp
      · exact fun _ => ⟨_, _, _, hashed, proceeds.admin, proceeds.developer, adds⟩
      · exact fun _ => adds.administered proceeds.admin

end SpecterCloud.Scripts
