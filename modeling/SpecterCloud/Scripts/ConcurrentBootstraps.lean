import SpecterCloud.Foundations.UniqueClaims
import SpecterCloud.Scripts.Bootstrap
import Mathlib.Data.Fintype.Basic

/-! Concurrent bootstraps for one org and one email: the unique email lets one of them commit. -/

namespace SpecterCloud.Scripts

open SpecterCloud.Foundations
open SpecterCloud.Models
open SpecterCloud.Core
open SpecterCloud.Auth

/-- The arguments and the random values of a run, apart from the org. -/
structure BootstrapCall where
  draws : BootstrapDraws
  now : Instant
  email : String
  password : String
  name : String

/-- The concurrent runs, as the steps of their transactions. -/
def bootstraps (runtime : Runtime) (isPrintable : Char → Bool) (orgId : UUID) {n : Nat}
    (calls : Fin n → BootstrapCall) (i : Fin n)
    : BootstrapSteps :=
  bootstrapSteps runtime isPrintable (calls i).draws (calls i).now orgId (calls i).email
    (calls i).password (calls i).name

/-- A user has the email. -/
def EmailTaken (email : String) (db : Database) : Prop := email ∈ db.users.map User.email

/-- The unrevoked grants of the role `admin` at an org. -/
def activeAdminGrants (orgId : UUID) (db : Database) : List UserRole :=
  match roleByName "admin" db with
  | none => []
  | some adminRole =>
      db.userRoles.filter
        (fun grant =>
          grant.orgId = orgId ∧ grant.roleId = adminRole.id ∧ grant.revokedAt = none)

-----------------------------------------------------------------------------------------
-- What the statements do to the emails
-----------------------------------------------------------------------------------------

/-- The INSERT of a user takes its email, if it is free. -/
theorem insertUserStatement_secures (row : User)
    : (insertUserStatement row).Secures (.userEmail row.email) (EmailTaken row.email) where
  locks := List.mem_cons_of_mem _ List.mem_cons_self
  free := by
    intro db next ran
    obtain ⟨accepted, rfl⟩ := Database.insertUser_ok ran
    exact accepted.freshEmail
  takes := by
    intro db next ran
    obtain ⟨accepted, rfl⟩ := Database.insertUser_ok ran
    exact List.mem_map_of_mem (List.mem_append_right _ List.mem_cons_self)

theorem insertUserStatement_keeps (email : String) (row : User)
    : Keeps (EmailTaken email) (insertUserStatement row) := by
  intro db next ran taken
  obtain ⟨accepted, rfl⟩ := Database.insertUser_ok ran
  unfold EmailTaken Database.withUser
  rw [List.map_append]
  exact List.mem_append_left _ taken

theorem insertOrgStatement_keeps (email : String) (row : Org)
    : Keeps (EmailTaken email) (insertOrgStatement row) := by
  intro db next ran taken
  obtain ⟨accepted, rfl⟩ := Database.insertOrg_ok ran
  exact taken

theorem insertGrantStatement_keeps (email : String) (row : UserRole)
    : Keeps (EmailTaken email) (insertGrantStatement row) := by
  intro db next ran taken
  obtain ⟨accepted, rfl⟩ := Database.insertUserRole_ok ran
  exact taken

-----------------------------------------------------------------------------------------
-- What a run sends
-----------------------------------------------------------------------------------------

section Runs

variable (runtime : Runtime) (isPrintable : Char → Bool) (draws : BootstrapDraws)
  (now : Instant) (orgId : UUID)

/-- A run commits True after the INSERT of its user. -/
def CommitsTrue (email : String) (sent : List (Statement Database AccountKey Raised))
    (value : Bool)
    : Prop :=
  Secured (.userEmail email) (EmailTaken email) sent ∧ value = true

variable {orgId} in
theorem grantRolesSteps_answers {email : String} {userId : UUID} {adminRole : Role}
    {sent : List (Statement Database AccountKey Raised)}
    (secured : Secured (.userEmail email) (EmailTaken email) sent)
    : (grantRolesSteps orgId userId adminRole).Answers (CommitsTrue email) (· = false) sent := by
  intro db
  dsimp only
  cases roleByName "developer" db with
  | none => exact fun _ => nofun
  | some developerRole =>
      refine Transaction.answers_executeAll ⟨?_, rfl⟩
      obtain ⟨statement, member, secures⟩ := secured
      exact ⟨statement, List.mem_append_left _ member, secures⟩

theorem createAdminSteps_answers (email password name : String) (adminRole : Role)
    (sent : List (Statement Database AccountKey Raised))
    : (createAdminSteps runtime isPrintable draws now orgId email password name
          adminRole).Answers
        (CommitsTrue email) (· = false) sent := by
  intro db
  dsimp only
  cases db.userByEmail email with
  | error error => exact fun _ => nofun
  | ok existing =>
      cases existing with
      | some user => exact fun _ => nofun
      | none =>
          cases hashPassword runtime draws.salt password with
          | error error => exact fun _ => nofun
          | ok passwordHash =>
              refine grantRolesSteps_answers ⟨_, List.mem_append_right _ List.mem_cons_self, ?_⟩
              exact
                insertUserStatement_secures
                  (bootstrapUser draws now orgId email passwordHash name)

/-- A run that commits has inserted its user and returns True; one that leaves without a commit
returns False or raises.
-/
theorem bootstrapSteps_answers (email password name : String)
    : (bootstrapSteps runtime isPrintable draws now orgId email password name).Answers
        (CommitsTrue (normalizeEmail runtime email)) (· = false) [] := by
  intro db
  dsimp only
  cases roleByName "admin" db with
  | none => exact fun _ => nofun
  | some adminRole =>
      intro db
      dsimp only
      cases activeGrant orgId adminRole.id db with
      | some grant => exact fun _ same => (Except.ok.inj same).symm
      | none =>
          intro db
          dsimp only
          cases db.orgById orgId with
          | none => exact createAdminSteps_answers _ _ _ _ _ _ _ _ _ _
          | some org => exact createAdminSteps_answers _ _ _ _ _ _ _ _ _ _

/-- A run sends only INSERTs, which leave every email in place. -/
theorem bootstrapSteps_keeps (taken email password name : String)
    : (bootstrapSteps runtime isPrintable draws now orgId email password name).Only
        (Keeps (EmailTaken taken)) := by
  have grants (adminRole : Role)
      : (grantRolesSteps orgId draws.userId adminRole).Only (Keeps (EmailTaken taken)) := by
    intro db
    dsimp only
    cases roleByName "developer" db with
    | none => trivial
    | some developerRole =>
        refine Transaction.only_executeAll ?_ trivial
        intro statement member
        obtain ⟨row, _, rfl⟩ := List.mem_map.mp member
        exact insertGrantStatement_keeps taken row
  have creates (adminRole : Role)
      : (createAdminSteps runtime isPrintable draws now orgId (normalizeEmail runtime email)
            password (strip name) adminRole).Only
          (Keeps (EmailTaken taken)) := by
    intro db
    dsimp only
    cases db.userByEmail (normalizeEmail runtime email) with
    | error error => trivial
    | ok existing =>
        cases existing with
        | some user => trivial
        | none =>
            cases hashPassword runtime draws.salt password with
            | error error => trivial
            | ok passwordHash => exact ⟨insertUserStatement_keeps taken _, grants adminRole⟩
  intro db
  dsimp only
  cases roleByName "admin" db with
  | none => trivial
  | some adminRole =>
      intro db
      dsimp only
      cases activeGrant orgId adminRole.id db with
      | some grant => trivial
      | none =>
          intro db
          dsimp only
          cases db.orgById orgId with
          | none => exact ⟨insertOrgStatement_keeps taken _, creates adminRole⟩
          | some org => exact creates adminRole

end Runs

-----------------------------------------------------------------------------------------
-- One administrator
-----------------------------------------------------------------------------------------

/-- A run that returns True has made its grant of `admin` the one that is active at the org. -/
theorem Bootstrapped.single {before after : Database} {orgId : UUID} {user : User}
    {adminRole developerRole : Role}
    (bootstrapped : Bootstrapped before after orgId user adminRole developerRole)
    : activeAdminGrants orgId after = [bootstrapGrant user.id orgId adminRole] := by
  have admin : roleByName "admin" after = some adminRole := by
    unfold roleByName
    rw [bootstrapped.roles]
    exact bootstrapped.admin
  have none_
      : before.userRoles.filter
          (fun grant =>
            grant.orgId = orgId ∧ grant.roleId = adminRole.id ∧ grant.revokedAt = none)
        = [] :=
    List.filter_eq_nil_iff.mpr (List.find?_eq_none.mp bootstrapped.ungranted)
  obtain ⟨storedAdmin, adminName⟩ := findBy_sound bootstrapped.admin
  obtain ⟨storedDeveloper, developerName⟩ := findBy_sound bootstrapped.developer
  have apart : developerRole.id ≠ adminRole.id := by
    intro same
    have role := eq_of_key_eq before.roleIds storedDeveloper storedAdmin same
    rw [role, adminName] at developerName
    exact absurd developerName (by decide)
  unfold activeAdminGrants
  rw [admin, bootstrapped.userRoles]
  dsimp only
  rw [List.filter_append, none_]
  simp [bootstrapGrant, apart]

/-- A run that has returned True has committed. -/
theorem committed_of_true {email : String} {progress : Progress Database AccountKey Raised Bool}
    (fits : progress.Answers (CommitsTrue email) (· = false))
    (returned : progress.outcome = some (.ok true))
    : ¬ progress.Uncommitted := by
  cases progress with
  | running => cases returned
  | committed => exact not_false
  | ended outcome => exact absurd (fits true (Option.some.inj returned)) (by decide)

/-- The one run that has committed, and what it has left: it alone has returned True, the
database is what it makes of `db` by itself, with one new user, who holds the one active grant
of `admin` at the org.
-/
structure BootstrappedBy (runtime : Runtime) (isPrintable : Char → Bool) (orgId : UUID) {n : Nat}
    (calls : Fin n → BootstrapCall) (db : Database)
    (server : Server (Fin n) Database AccountKey Raised Bool) (winner : Fin n)
    : Prop where
  returned : (server.progress winner).outcome = some (.ok true)
  alone
    : (bootstrap runtime isPrintable (calls winner).draws (calls winner).now orgId
          (calls winner).email (calls winner).password (calls winner).name).perform db
      = (.ok true, server.db)
  others : ∀ i, i ≠ winner → (server.progress i).outcome ≠ some (.ok true)
  user
    : ∃ user adminRole,
        server.db.users = db.users ++ [user]
        ∧ user.email = normalizeEmail runtime (calls winner).email
        ∧ activeAdminGrants orgId server.db = [bootstrapGrant user.id orgId adminRole]

/-- Concurrent bootstraps for one org whose emails are the same after normalization, in every
interleaving and from every state: no run has returned True and nothing has changed, or one run
has bootstrapped the org and every other one that is over returned False or raised.
-/
theorem bootstraps_bootstrap_once (runtime : Runtime) (isPrintable : Char → Bool) (orgId : UUID)
    (email : String) (n : Nat) (calls : Fin n → BootstrapCall)
    (sameEmail : ∀ i, normalizeEmail runtime (calls i).email = email) (db : Database)
    (history : List (Fin n)) (server : Server (Fin n) Database AccountKey Raised Bool)
    (ran
      : Interleavings Server.unguarded (bootstraps runtime isPrintable orgId calls) db history
          server)
    : (server.db = db ∧ ∀ i, (server.progress i).outcome ≠ some (.ok true))
      ∨ ∃ winner, BootstrappedBy runtime isPrintable orgId calls db server winner := by
  have answers
      : ∀ i, (bootstraps runtime isPrintable orgId calls i).Answers (CommitsTrue email)
          (· = false) [] := by
    intro i
    rw [← sameEmail i]
    exact bootstrapSteps_answers runtime isPrintable (calls i).draws (calls i).now orgId
      (calls i).email (calls i).password (calls i).name
  have keeps
      : ∀ i, (bootstraps runtime isPrintable orgId calls i).Only (Keeps (EmailTaken email)) :=
    fun i => bootstrapSteps_keeps runtime isPrintable (calls i).draws (calls i).now orgId email
      (calls i).email (calls i).password (calls i).name
  have fits := ran.answers answers
  have claims := ran.claims answers (fun _ _ commits => commits.1) keeps
  rcases claims with unclaimed | ⟨winner, claimed⟩
  · refine .inl ⟨unclaimed.untouched, fun i returned => ?_⟩
    exact committed_of_true (fits i) returned (unclaimed.uncommitted i)
  · obtain ⟨sent, value, won, alone⟩ := claimed.won
    have committed := fits winner
    rw [won] at committed
    obtain rfl : value = true := committed.2
    have steps :=
      bootstrap_steps runtime isPrintable (calls winner).draws (calls winner).now orgId
        (calls winner).email (calls winner).password (calls winner).name
    obtain ⟨_, adminRole, _, _, bootstrapped⟩ := bootstrapSteps_performed alone
    refine .inr ⟨winner, ?_, (steps.perform db).trans alone, ?_, ?_⟩
    · rw [won]
      rfl
    · intro i other returned
      exact committed_of_true (fits i) returned (claimed.lost i other).uncommitted
    · exact ⟨_, adminRole, bootstrapped.users, rfl, bootstrapped.single⟩

/-- Two runs whose emails differ in case. -/
def sampleBootstraps (i : Fin 2) : BootstrapCall :=
  match i with
  | 0 => ⟨⟨7, "somesalt"⟩, 0, "admin@specter.example", "password", "Specter Admin"⟩
  | 1 => ⟨⟨8, "somesalt"⟩, 0, "Admin@Specter.Example", "password", "Specter Admin"⟩

theorem sampleOrg_accepted : migratedDatabase.AcceptsOrg (specterOrg 1) :=
  ⟨⟨by decide, by decide⟩, List.not_mem_nil, List.not_mem_nil⟩

/-- The org is there, without an administrator. -/
def unadministeredDatabase : Database := migratedDatabase.withOrg (specterOrg 1) sampleOrg_accepted

/-- Of two runs that both find the org without an administrator and the email free, one inserts
its user first, and the other one is refused.
-/
theorem overlapping_bootstraps_bootstrap_once
    : ∃ history server,
        Interleavings Server.unguarded
            (bootstraps sampleRuntime (fun _ => true) 1 sampleBootstraps) unadministeredDatabase
            history server
        ∧ (server.progress 1).outcome = some (.error (.integrityError "users.email"))
        ∧ BootstrappedBy sampleRuntime (fun _ => true) 1 sampleBootstraps unadministeredDatabase
            server 0 := by
  have checked
      : (Server.play (fun _ _ => true)
          (.initial unadministeredDatabase
            (bootstraps sampleRuntime (fun _ => true) 1 sampleBootstraps))
          [1, 0, 0, 0, 0, 0, 1, 1, 1, 1, 0, 0, 0, 0]).any
          (fun server =>
            decide
              ((server.progress 0).outcome = some (.ok true)
                ∧ (server.progress 1).outcome
                  = some (.error (.integrityError "users.email"))))
        = true := by
    decide +kernel
  obtain ⟨server, ran, found⟩ := Server.play_finds (fun _ _ _ => trivial) checked
  obtain ⟨returned, refused⟩ := of_decide_eq_true found
  have sameEmail
      : ∀ i, normalizeEmail sampleRuntime (sampleBootstraps i).email = "admin@specter.example"
    | 0 => rfl
    | 1 => rfl
  rcases bootstraps_bootstrap_once sampleRuntime (fun _ => true) 1 "admin@specter.example" 2
    sampleBootstraps sameEmail unadministeredDatabase _ server ran with
    ⟨_, nobody⟩ | ⟨winner, bootstrapped⟩
  · exact absurd returned (nobody 0)
  · obtain rfl : 0 = winner := not_not.mp fun other => bootstrapped.others 0 other returned
    exact ⟨_, server, ran, refused, bootstrapped⟩

end SpecterCloud.Scripts
