import SpecterCloud.Authorization.CheckSpecification
import SpecterCloud.Scripts.Bootstrap
import SpecterCloud.Sessions.Revocation

/-! The administrator that a bootstrap adds can log in, is recognized by the token of the login,
and holds the permissions of both roles below the org.
-/

namespace SpecterCloud.Scripts

open SpecterCloud.Foundations
open SpecterCloud.Models
open SpecterCloud.Core
open SpecterCloud.Auth

-----------------------------------------------------------------------------------------
-- What happens between the bootstrap and the login
-----------------------------------------------------------------------------------------

/-- The operation is no login for the email, and leaves users and grants alone if it is none of
the requests to the application.
-/
def SparesAccount (runtime : Runtime) (email : String) : Operation → Prop
  | .login _ _ payload _ => normalizeEmail runtime payload.email ≠ email
  | .other change _ =>
      ∀ db,
        (change db).users = db.users
        ∧ (change db).userRoles = db.userRoles
        ∧ (change db).roles = db.roles
  | _ => True

/-- The user stays as it is, and so does who holds which role. -/
structure AccountStays (user : User) (before after : Database) : Prop where
  user : user ∈ before.users → user ∈ after.users
  userRoles : after.userRoles = before.userRoles
  roles : after.roles = before.roles

section Stays

variable {user : User}

theorem AccountStays.refl (db : Database) : AccountStays user db db := ⟨id, rfl, rfl⟩

theorem AccountStays.trans (a b c : Database) (first : AccountStays user a b)
    (second : AccountStays user b c)
    : AccountStays user a c :=
  ⟨second.user ∘ first.user, second.userRoles.trans first.userRoles,
    second.roles.trans first.roles⟩

/-- The statements about sessions and audit rows leave every account as it is. -/
theorem AccountStays.kept : KeptByRequests (AccountStays user) where
  refl := AccountStays.refl
  trans := AccountStays.trans
  insertSession := by
    intro row db next ran
    obtain ⟨accepted, rfl⟩ := Database.insertSession_ok ran
    exact ⟨id, rfl, rfl⟩
  insertAuditLog := by
    intro row db next ran
    obtain rfl := Database.insertAuditLog_ok ran
    exact ⟨id, rfl, rfl⟩
  revoke := by
    intro sessionId now reason db next ran
    obtain rfl := Database.updateSession_ok ran
    exact ⟨id, rfl, rfl⟩

theorem stays_touch : KeptByTouch (AccountStays user) := by
  intro sessionId now db next ran
  obtain rfl := Database.updateSession_ok ran
  exact ⟨id, rfl, rfl⟩

/-- An update of another user leaves the user as it is. -/
theorem stays_writeUser {other : User} {columns : UserColumns} {now : Instant} {db : Database}
    (stored : other ∈ db.users) (apart : other.email ≠ user.email)
    : AccountStays user db (db.writeUser other.id columns now) := by
  refine ⟨fun member => mem_rewriteWhere.mpr ⟨user, member, ?_⟩, rfl, rfl⟩
  have differs : user.id ≠ other.id := by
    intro same
    exact apart (congrArg User.email (eq_of_key_eq db.userIds stored member same.symm))
  simp [differs]

/-- A login for another email leaves the user as it is. -/
theorem attemptLogin_stays {runtime : Runtime} {draws : Draws} {now : Instant}
    (attempt : LoginAttempt) (apart : normalizeEmail runtime attempt.email ≠ user.email)
    (db : Database)
    : ∃ outcome after,
        (attemptLogin runtime draws now attempt).Ends db outcome after
        ∧ AccountStays user db after := by
  obtain ⟨outcome, after, attempted, ends⟩ := attemptLogin_cases runtime draws now attempt db
  refine ⟨outcome, after, ends, ?_⟩
  have other {found : User} (reaches : Reaches runtime attempt db found)
      : found ∈ db.users ∧ found.email ≠ user.email := by
    obtain ⟨stored, email⟩ := findBy_sound (Database.userByEmail_answered reaches.found).2
    exact ⟨stored, email ▸ apart⟩
  cases attempted with
  | unsendable | unknown | inactive | locked | raised => exact .refl db
  | failed reaches => exact stays_writeUser (other reaches).1 (other reaches).2
  | @succeeded found rehashed reaches _ _ _ accepted =>
      have written
          : AccountStays user db (db.writeUser found.id (successColumns now rehashed) now) :=
        stays_writeUser (other reaches).1 (other reaches).2
      exact ⟨written.user, rfl, rfl⟩

/-- One operation that spares the account leaves it as it is. -/
theorem operation_stays {runtime : Runtime} {operation : Operation}
    (spares : SparesAccount runtime user.email operation) (db : Database)
    : AccountStays user db (operation.apply runtime db) := by
  refine Operation.grows AccountStays.kept stays_touch ?_ ?_
  · rintro draws now payload request rfl
    obtain ⟨outcome, middle, attempted, stays⟩ :=
      attemptLogin_stays (Api.loginAttempt payload request) spares db
    exact Action.Respects.follows attempted stays
      (answerLogin_respects AccountStays.kept runtime payload request)
  · rintro change untouched rfl
    obtain ⟨users, userRoles, roles⟩ := spares db
    exact ⟨fun member => users ▸ member, userRoles, roles⟩

/-- So do any number of them, by induction on the operations. -/
theorem operations_stay {runtime : Runtime} {operations : List Operation}
    (spare : ∀ operation ∈ operations, SparesAccount runtime user.email operation)
    (db : Database)
    : AccountStays user db (operations.foldl (Operation.apply runtime) db) := by
  induction operations generalizing db with
  | nil => exact .refl db
  | cons operation rest ih =>
      have first := operation_stays (spare operation List.mem_cons_self) db
      exact .trans _ _ _ first (ih (fun later member => spare later (by simp [member])) _)

end Stays

-----------------------------------------------------------------------------------------
-- The login
-----------------------------------------------------------------------------------------

/-- The token and the session id that a login draws are not in use. -/
structure FreshDraws (runtime : Runtime) (draws : Draws) (db : Database) : Prop where
  token : draws.token ≠ ""
  tokenHash : hashToken runtime draws.token ∉ db.sessions.map Session.tokenHash
  sessionId : draws.sessionId ∉ db.sessions.map Session.id

/-- The user that a login leaves, and what its token is worth at the same instant. -/
structure SignsIn (runtime : Runtime) (draws : Draws) (now : Instant) (attempt : LoginAttempt)
    (db : Database) (user : User) (after : Database)
    : Prop where
  succeeds
    : ∃ session,
        (attemptLogin runtime draws now attempt).perform db
        = (.ok (.success user draws.token session), after)
  recognized
    : ∀ cookieToken authorization,
        rawToken runtime cookieToken authorization = some draws.token
        → (getCurrentUser runtime now cookieToken authorization).perform after
          = (.ok user, after)

section Login

variable {runtime : Runtime} {draws : Draws} {now : Instant} {attempt : LoginAttempt}
  {db : Database} {user : User}

/-- The session of a login is live at the instant of the login. -/
theorem loginSession_live : Live now (loginSession runtime draws now attempt user) where
  unrevoked := rfl
  unexpired := by simp [loginSession, newSession, days, sessionTtlDays]
  recent := by simp [loginSession, newSession, days, idleTimeoutDays]

/-- The session of a login is not touched at the instant of the login. -/
theorem loginSession_fresh : ¬ Stale now (loginSession runtime draws now attempt user) := by
  simp [Stale, loginSession, newSession, minutes, lastSeenDebounceMinutes]

/-- The token of a login is recognized as the user that it has left. -/
theorem login_recognized {columns : UserColumns} {cookieToken authorization : Option String}
    (stored : user ∈ db.users) (active : user.isActive = true) (present : draws.token ≠ "")
    (accepted
      : (db.writeUser user.id columns now).AcceptsSession
          (loginSession runtime draws now attempt user))
    (presented : rawToken runtime cookieToken authorization = some draws.token)
    : let after := (db.writeUser user.id columns now).withSession _ accepted
      (getCurrentUser runtime now cookieToken authorization).perform after
      = (.ok (columns.write now user), after) := by
  intro after
  have found
      : after.sessionByTokenHash (hashToken runtime draws.token)
        = some (loginSession runtime draws now attempt user) :=
    (findBy_eq_some_iff after.sessionTokenHashes).mpr
      ⟨List.mem_append_right _ List.mem_cons_self, rfl⟩
  have live
      : liveSession runtime now draws.token after
        = some (loginSession runtime draws now attempt user) := by
    rw [liveSession, if_neg present, found]
    exact Option.filter_eq_some_iff.mpr ⟨rfl, decide_eq_true loginSession_live⟩
  have untouched : touch now (loginSession runtime draws now attempt user) after = after :=
    if_neg loginSession_fresh
  have owner : after.userById user.id = some (columns.write now user) :=
    (findBy_eq_some_iff after.userIds).mpr
      ⟨mem_rewriteWhere.mpr ⟨user, stored, by simp⟩, rfl⟩
  have recognized
      : activeUser after (loginSession runtime draws now attempt user)
        = some (columns.write now user) :=
    Option.filter_eq_some_iff.mpr ⟨owner, active⟩
  have resolved := (getCurrentUser_resolves presented live).perform
  rwa [recognized, untouched] at resolved

/-- A login with fresh draws signs in an active, unlocked user whose password it has. -/
theorem signsIn_of_verified (reaches : Reaches runtime attempt db user)
    (unlocked : Unlocked now user)
    (verified : verifyPassword runtime attempt.password user.passwordHash = true)
    (present : attempt.password ≠ "") (fits : NullOr (FitsString 500) attempt.userAgent)
    (fresh : FreshDraws runtime draws db)
    : ∃ rehashed after,
        SignsIn runtime draws now attempt db ((successColumns now rehashed).write now user) after
        ∧ after.toAccessTables = db.toAccessTables := by
  obtain ⟨rehashed, hashed⟩ := rehash_computes present user.passwordHash
  have stored := (findBy_sound (Database.userByEmail_answered reaches.found).2).1
  have accepted
      : (db.writeUser user.id (successColumns now rehashed) now).AcceptsSession
          (loginSession runtime draws now attempt user) := by
    refine ⟨⟨runtime.sha256Hex_fits _, fits, trivial⟩, fresh.sessionId, fresh.tokenHash, ?_⟩
    rw [Database.writeUser_ids]
    exact List.mem_map_of_mem stored
  let after := (db.writeUser user.id (successColumns now rehashed) now).withSession _ accepted
  have completes
      : (attemptLogin runtime draws now attempt).Ends db
          (.ok
            (.success ((successColumns now rehashed).write now user) draws.token
              (loginSession runtime draws now attempt user)))
          after := by
    refine attemptLogin_verifies reaches unlocked ?_
    rw [verified]
    exact completeLogin_ends hashed accepted
  refine ⟨rehashed, after, ⟨⟨_, completes.perform⟩, ?_⟩, rfl⟩
  intro cookieToken authorization presented
  exact login_recognized stored reaches.active fresh.token accepted presented

/-- A login whose User-Agent exceeds its column raises where it would succeed. -/
theorem raises_of_verified (reaches : Reaches runtime attempt db user)
    (unlocked : Unlocked now user)
    (verified : verifyPassword runtime attempt.password user.passwordHash = true)
    (exceeds : ¬ NullOr (FitsString 500) attempt.userAgent)
    : ∃ error, (attemptLogin runtime draws now attempt).perform db = (.error error, db) := by
  obtain ⟨error, raises⟩ :
      ∃ error, (completeLogin runtime draws now attempt user).Ends db (.error error) db :=
    completeLogin_raises fun _ _ accepted => exceeds accepted.fits.userAgent
  refine ⟨error, Action.Ends.perform ?_⟩
  refine attemptLogin_verifies reaches unlocked ?_
  rw [verified]
  exact raises

end Login

-----------------------------------------------------------------------------------------
-- Administration
-----------------------------------------------------------------------------------------

/-- Checks allow the user what the bundles of both roles allow, at the org and wherever the org
is met within the cap.
-/
structure Administers (tables : AccessTables) (user : User) (orgId : UUID) : Prop where
  here
    : ∀ permission, permission ∈ bundle "admin" ∨ permission ∈ bundle "developer"
        → (checkPermission tables user permission orgId).allowed = true
  below
    : ∀ permission, permission ∈ bundle "admin" ∨ permission ∈ bundle "developer"
        → ∀ k ≤ maxHierarchyDepth, ∀ targetOrgId org,
            orgAbove tables targetOrgId k = some org
            → org.id = orgId
            → (checkPermission tables user permission targetOrgId).allowed = true

section Administration

variable {before after : Database} {orgId : UUID} {user : User} {adminRole developerRole : Role}

/-- One of the two roles allows what either bundle allows. -/
theorem Bootstrapped.bundled {permission : Permission}
    (bootstrapped : Bootstrapped before after orgId user adminRole developerRole)
    (either : permission ∈ bundle "admin" ∨ permission ∈ bundle "developer")
    : ∃ role ∈ [adminRole, developerRole],
        role ∈ before.roles ∧ permission ∈ bundle role.name := by
  obtain ⟨admin, adminName⟩ := findBy_sound bootstrapped.admin
  obtain ⟨developer, developerName⟩ := findBy_sound bootstrapped.developer
  rcases either with bundled | bundled
  · exact ⟨adminRole, by simp, admin, adminName ▸ bundled⟩
  · exact ⟨developerRole, by simp, developer, developerName ▸ bundled⟩

/-- The user holds a role that allows it at the org, also in later tables with these grants. -/
theorem Bootstrapped.grants {permission : Permission} {tables : AccessTables}
    (bootstrapped : Bootstrapped before after orgId user adminRole developerRole)
    (userRoles : tables.userRoles = after.userRoles) (roles : tables.roles = after.roles)
    (either : permission ∈ bundle "admin" ∨ permission ∈ bundle "developer")
    : ∃ role, Grants tables user.id permission orgId role := by
  obtain ⟨role, granted, known, bundled⟩ := bootstrapped.bundled either
  refine ⟨role, ?_, bundled, bootstrapGrant user.id orgId role, ?_, rfl, rfl, rfl, rfl⟩
  · rw [roles, bootstrapped.roles]
    exact known
  · rw [userRoles, bootstrapped.userRoles]
    exact List.mem_append_right _ (List.mem_map_of_mem granted)

/-- The user, whatever its other columns now are, administers the org in tables that have the
org and these grants.
-/
theorem Bootstrapped.administers {tables : AccessTables} {holder : User}
    (bootstrapped : Bootstrapped before after orgId user adminRole developerRole)
    (same : holder.id = user.id)
    (userRoles : tables.userRoles = after.userRoles) (roles : tables.roles = after.roles)
    (known : orgId ∈ tables.orgs.map Org.id)
    : Administers tables holder orgId := by
  have below {permission : Permission}
      (either : permission ∈ bundle "admin" ∨ permission ∈ bundle "developer") {k : Nat}
      (capped : k ≤ maxHierarchyDepth) {targetOrgId : UUID} {org : Org}
      (above : orgAbove tables targetOrgId k = some org) (atOrg : org.id = orgId)
      : (checkPermission tables holder permission targetOrgId).allowed = true := by
    obtain ⟨role, grants⟩ := bootstrapped.grants userRoles roles either
    rw [← same, ← atOrg] at grants
    exact checkPermission_allows capped above grants
  refine ⟨?_, fun _ either _ capped _ _ above atOrg => below either capped above atOrg⟩
  intro permission either
  obtain ⟨org, stored, atOrg⟩ := List.mem_map.mp known
  have found : tables.orgById orgId = some org :=
    (findBy_eq_some_iff tables.orgIds).mpr ⟨stored, atOrg⟩
  exact below either (Nat.zero_le _) ((orgAbove_zero tables orgId).trans found) atOrg

end Administration

/-- The account that a login for the bootstrapped email reaches: it is as the bootstrap left it,
and the password verifies.
-/
structure LogsInto (runtime : Runtime) (attempt : LoginAttempt) (later : Instant)
    (bootstrapped db : Database) (user : User)
    : Prop where
  stays : AccountStays user bootstrapped db
  reaches : Reaches runtime attempt db user
  unlocked : Unlocked later user
  verified : verifyPassword runtime attempt.password user.passwordHash = true
  present : attempt.password ≠ ""

/-- After a bootstrap that returned True, and whatever operations follow that are no login for
its email, a login with its password for the same email reaches the user that it added.
-/
theorem bootstrap_logsInto {runtime : Runtime} {isPrintable : Char → Bool}
    {draws : BootstrapDraws} {now : Instant} {orgId : UUID} {email password name : String}
    {before : Database}
    (performed
      : ((bootstrap runtime isPrintable draws now orgId email password name).perform before).1
        = .ok true)
    (verifies
      : ∀ hashed, hashPassword runtime draws.salt password = .ok hashed
          → verifyPassword runtime password hashed = true)
    {operations : List Operation}
    (spare
      : ∀ operation ∈ operations,
          SparesAccount runtime (normalizeEmail runtime email) operation)
    (later : Instant) {attempt : LoginAttempt}
    (sameEmail : normalizeEmail runtime attempt.email = normalizeEmail runtime email)
    (samePassword : attempt.password = password)
    : ∃ passwordHash adminRole developerRole,
        let after :=
          ((bootstrap runtime isPrintable draws now orgId email password name).perform before).2
        let user :=
          bootstrapUser draws now orgId (normalizeEmail runtime email) passwordHash (strip name)
        Bootstrapped before after orgId user adminRole developerRole
        ∧ LogsInto runtime attempt later after
            (operations.foldl (Operation.apply runtime) after) user := by
  have steps := bootstrap_steps runtime isPrintable draws now orgId email password name
  obtain ⟨passwordHash, adminRole, developerRole, hashed, bootstrapped⟩ :=
    bootstrapSteps_performed ((steps.perform before).symm.trans (Prod.ext performed rfl))
  refine ⟨passwordHash, adminRole, developerRole, ?_⟩
  intro after user
  let db := operations.foldl (Operation.apply runtime) after
  have stays : AccountStays user after db := operations_stay spare _
  have member : user ∈ db.users := by
    refine stays.user ?_
    rw [bootstrapped.users]
    exact List.mem_append_right _ List.mem_cons_self
  have storable : Storable (normalizeEmail runtime email) :=
    (Database.userByEmail_answered bootstrapped.unknown).1
  have found : db.userByEmail (normalizeEmail runtime attempt.email) = .ok (some user) := by
    rw [sameEmail, Database.userByEmail, if_pos storable]
    exact congrArg Except.ok ((findBy_eq_some_iff db.userEmails).mpr ⟨member, rfl⟩)
  refine ⟨bootstrapped, stays, ⟨found, rfl⟩, ?_, ?_, ?_⟩
  · intro untilTime lock
    cases lock
  · exact samePassword ▸ verifies passwordHash hashed
  · exact samePassword ▸ hashPassword_present hashed

/-- After a bootstrap that returned True, and whatever operations follow that are no login for
its email, a login with its password for the same email succeeds exactly if its User-Agent fits
the column of the session. Its token is then recognized as the bootstrapped user, who
administers the org with the permissions of both roles.
-/
theorem bootstrapped_admin_administers (runtime : Runtime) (isPrintable : Char → Bool)
    (draws : BootstrapDraws) (now : Instant) (orgId : UUID) (email password name : String)
    (before : Database)
    (performed
      : ((bootstrap runtime isPrintable draws now orgId email password name).perform before).1
        = .ok true)
    (verifies
      : ∀ hashed, hashPassword runtime draws.salt password = .ok hashed
          → verifyPassword runtime password hashed = true)
    (operations : List Operation)
    (spare
      : ∀ operation ∈ operations,
          SparesAccount runtime (normalizeEmail runtime email) operation)
    (loginDraws : Draws) (later : Instant) (attempt : LoginAttempt)
    (sameEmail : normalizeEmail runtime attempt.email = normalizeEmail runtime email)
    (samePassword : attempt.password = password)
    : let db :=
        operations.foldl (Operation.apply runtime)
          ((bootstrap runtime isPrintable draws now orgId email password name).perform before).2
      FreshDraws runtime loginDraws db
        → ((∃ user after,
              SignsIn runtime loginDraws later attempt db user after
              ∧ user.id = draws.userId
              ∧ user.email = normalizeEmail runtime email
              ∧ user.name = strip name
              ∧ user.orgId = orgId
              ∧ Administers after.toAccessTables user orgId)
          ↔ NullOr (FitsString 500) attempt.userAgent) := by
  intro db fresh
  obtain ⟨passwordHash, adminRole, developerRole, bootstrapped, logsInto⟩ :=
    bootstrap_logsInto performed verifies spare later sameEmail samePassword
  obtain ⟨stays, reaches, unlocked, verified, present⟩ := logsInto
  constructor
  · rintro ⟨user, after, ⟨⟨session, succeeds⟩, _⟩, _⟩
    by_contra exceeds
    obtain ⟨error, raises⟩ := raises_of_verified reaches unlocked verified exceeds
    cases succeeds.symm.trans raises
  · intro fits
    obtain ⟨rehashed, after, signs, tables⟩ :=
      signsIn_of_verified reaches unlocked verified present fits fresh
    have stored := (findBy_sound (Database.userByEmail_answered reaches.found).2).1
    refine ⟨_, after, signs, rfl, rfl, rfl, rfl, ?_⟩
    rw [tables]
    exact bootstrapped.administers rfl stays.userRoles stays.roles (db.userOrgs _ stored)

/-- A bootstrap right after the migrations. -/
def sampleBootstrap : DbAction Bool :=
  bootstrap sampleRuntime (fun _ => true) ⟨7, "somesalt"⟩ 0 1 " Admin@Specter.Example" "password"
    "Specter Admin"

theorem sampleBootstrap_performed
    : (sampleBootstrap.perform migratedDatabase).1 = .ok true := by
  decide

theorem sampleBootstrap_verifies
    : ∀ hashed, hashPassword sampleRuntime "somesalt" "password" = .ok hashed
        → verifyPassword sampleRuntime "password" hashed = true := by
  intro hashed computed
  obtain rfl : samplePasswordHash = hashed := Except.ok.inj computed
  simp [verifyPassword, sampleRuntime]

theorem sampleBootstrap_fresh
    : FreshDraws sampleRuntime ⟨"a", 1, "somesalt"⟩ (sampleBootstrap.perform migratedDatabase).2 :=
  ⟨by decide, by decide, by decide⟩

/-- A login of the administrator under a User-Agent. -/
def sampleAdminLogin (userAgent : Option String) : LoginAttempt where
  email := "admin@specter.example"
  password := "password"
  userAgent

theorem sampleAdminLogin_email (userAgent : Option String)
    : normalizeEmail sampleRuntime (sampleAdminLogin userAgent).email
      = normalizeEmail sampleRuntime " Admin@Specter.Example" := by
  show normalizeEmail sampleRuntime "admin@specter.example" = _
  decide +kernel

/-- Its administrator logs in five minutes later and administers the org. -/
theorem sampleBootstrap_administers
    : (sampleBootstrap.perform migratedDatabase).1 = .ok true
      ∧ ∃ user after,
          SignsIn sampleRuntime ⟨"a", 1, "somesalt"⟩ (minutes 5) (sampleAdminLogin none)
            (sampleBootstrap.perform migratedDatabase).2 user after
          ∧ Administers after.toAccessTables user 1 := by
  obtain ⟨user, after, signs, _, _, _, _, administers⟩ :=
    (bootstrapped_admin_administers sampleRuntime (fun _ => true) ⟨7, "somesalt"⟩ 0 1
      " Admin@Specter.Example" "password" "Specter Admin" migratedDatabase
      sampleBootstrap_performed sampleBootstrap_verifies [] (List.forall_mem_nil _)
      ⟨"a", 1, "somesalt"⟩ (minutes 5) (sampleAdminLogin none) (sampleAdminLogin_email none) rfl
      sampleBootstrap_fresh).mpr trivial
  exact ⟨sampleBootstrap_performed, user, after, signs, administers⟩

/-- A User-Agent of 501 characters. -/
def longUserAgent : Option String := some (String.ofList (List.replicate 501 'a'))

theorem longUserAgent_exceeds : ¬ NullOr (FitsString 500) longUserAgent :=
  not_fitsString_replicate 500 'a'

/-- With the right password and a User-Agent of 501 characters the administrator is not logged
in: the login raises.
-/
theorem longUserAgent_administrator_raises
    : (sampleBootstrap.perform migratedDatabase).1 = .ok true
      ∧ (∀ hashed, hashPassword sampleRuntime "somesalt" "password" = .ok hashed
          → verifyPassword sampleRuntime "password" hashed = true)
      ∧ FreshDraws sampleRuntime ⟨"a", 1, "somesalt"⟩ (sampleBootstrap.perform migratedDatabase).2
      ∧ normalizeEmail sampleRuntime (sampleAdminLogin longUserAgent).email
        = normalizeEmail sampleRuntime " Admin@Specter.Example"
      ∧ (sampleAdminLogin longUserAgent).password = "password"
      ∧ ∃ error,
          ((attemptLogin sampleRuntime ⟨"a", 1, "somesalt"⟩ (minutes 5)
              (sampleAdminLogin longUserAgent)).perform
                (sampleBootstrap.perform migratedDatabase).2).1
          = .error error := by
  obtain ⟨_, _, _, _, logsInto⟩ :=
    bootstrap_logsInto sampleBootstrap_performed sampleBootstrap_verifies
      (List.forall_mem_nil (SparesAccount sampleRuntime _)) (minutes 5)
      (sampleAdminLogin_email longUserAgent) rfl
  obtain ⟨error, raises⟩ :=
    raises_of_verified logsInto.reaches logsInto.unlocked logsInto.verified longUserAgent_exceeds
  exact ⟨sampleBootstrap_performed, sampleBootstrap_verifies, sampleBootstrap_fresh,
    sampleAdminLogin_email longUserAgent, rfl, error, congrArg Prod.fst raises⟩

end SpecterCloud.Scripts
