import SpecterCloud.Lockout.LoginEffects
import SpecterCloud.Service.KeptHistory

/-! The service under one release after another, whose password hashes may cost more or less: an
account keeps its password through all of them.
-/

namespace SpecterCloud.Service

open SpecterCloud.Foundations
open SpecterCloud.Models
open SpecterCloud.Core
open SpecterCloud.Auth
open SpecterCloud.Api

/-- Every account stays, with a hash of the password that it had, made in some release. -/
def KeepsPasswords (releases : List Runtime) (passwords : Set String)
    (before after : Database)
    : Prop :=
  ∀ row ∈ before.users, ∃ next ∈ after.users,
    KeepsUser row next
    ∧ ∀ plain ∈ passwords, HashOf releases plain row.passwordHash
      → HashOf releases plain next.passwordHash

-----------------------------------------------------------------------------------------
-- Runs over releases
-----------------------------------------------------------------------------------------

/-- A call that a release serves. -/
structure ReleaseCall where
  release : Runtime
  call : ServiceCall

/-- The answer of the release. -/
def serveRelease (isPrintable : Char → Bool) (db : Database) (served : ReleaseCall)
    : ServiceAnswer × Database :=
  serveService served.release isPrintable db served.call

/-- The call is of a known release; whoever logs in tries one of the passwords, and handlers
leave the passwords alone.
-/
structure ReleaseCall.Permitted (releases : List Runtime) (passwords : Set String)
    (served : ReleaseCall)
    : Prop where
  release : served.release ∈ releases
  tried
    : ∀ draws payload request, served.call.request = .login draws payload request
      → payload.password ∈ passwords
  handled
    : served.call.request.HandledBy (fun handler =>
        ∀ user, Action.Respects (KeepsPasswords releases passwords) (handler user))

/-- Runs of calls, each served by one of the releases. -/
abbrev ReleaseRuns (releases : List Runtime) (passwords : Set String)
    (isPrintable : Char → Bool) (initial : Database)
    (history : List (ReleaseCall × ServiceAnswer)) (db : Database)
    : Prop :=
  Runs
    (served (fun _ served => served.Permitted releases passwords) (serveRelease isPrintable))
    initial history db

-----------------------------------------------------------------------------------------
-- What keeps the passwords
-----------------------------------------------------------------------------------------

section Kept

variable {releases : List Runtime} {passwords : Set String} {db after : Database}

theorem KeepsPasswords.refl (db : Database) : KeepsPasswords releases passwords db db :=
  fun row stored => ⟨row, stored, KeepsUser.refl row, fun _ _ hashed => hashed⟩

theorem KeepsPasswords.trans (a b c : Database) (first : KeepsPasswords releases passwords a b)
    (second : KeepsPasswords releases passwords b c)
    : KeepsPasswords releases passwords a c := by
  intro row stored
  obtain ⟨middle, kept, same, hashed⟩ := first row stored
  obtain ⟨next, keptAgain, sameAgain, hashedAgain⟩ := second middle kept
  exact ⟨next, keptAgain, same.trans sameAgain,
    fun plain among made => hashedAgain plain among (hashed plain among made)⟩

/-- Users that are only added to keep what they have. -/
theorem KeepsPasswords.of_subset (more : db.users ⊆ after.users)
    : KeepsPasswords releases passwords db after :=
  fun row stored => ⟨row, more stored, KeepsUser.refl row, fun _ _ hashed => hashed⟩

theorem KeepsPasswords.requests : KeptByRequests (KeepsPasswords releases passwords) where
  refl := KeepsPasswords.refl
  trans := KeepsPasswords.trans
  insertSession := by
    intro row db next ran
    obtain ⟨accepted, rfl⟩ := Database.insertSession_ok ran
    exact .of_subset (List.Subset.refl _)
  insertAuditLog := by
    intro row db next ran
    obtain rfl := Database.insertAuditLog_ok ran
    exact .of_subset (List.Subset.refl _)
  revoke := by
    intro sessionId now reason db next ran
    obtain rfl := Database.updateSession_ok ran
    exact .of_subset (List.Subset.refl _)

theorem KeepsPasswords.touches : KeptByTouch (KeepsPasswords releases passwords) := by
  intro sessionId now db next ran
  obtain rfl := Database.updateSession_ok ran
  exact .of_subset (List.Subset.refl _)

theorem KeepsPasswords.bootstraps : KeptByBootstrap (KeepsPasswords releases passwords) where
  insertOrg := by
    intro row _ db next ran
    obtain ⟨accepted, rfl⟩ := Database.insertOrg_ok ran
    exact .of_subset (List.Subset.refl _)
  insertUser := by
    intro row _ db next ran
    obtain ⟨accepted, rfl⟩ := Database.insertUser_ok ran
    exact .of_subset (List.subset_append_left _ _)
  insertUserRole := by
    intro row _ db next ran
    obtain ⟨accepted, rfl⟩ := Database.insertUserRole_ok ran
    exact .of_subset (List.Subset.refl _)

/-- Columns that leave every row of the id with a hash of the same passwords. -/
theorem KeepsPasswords.writeUser {id : UUID} {columns : UserColumns} {now : Instant}
    (kept
      : ∀ row ∈ db.users, row.id = id
        → ∀ plain ∈ passwords, HashOf releases plain row.passwordHash
          → HashOf releases plain (columns.passwordHash.getD row.passwordHash))
    : KeepsPasswords releases passwords db (db.writeUser id columns now) := by
  intro row stored
  refine ⟨if row.id = id then columns.write now row else row,
    mem_rewriteWhere.mpr ⟨row, stored, by simp⟩, ?_⟩
  split
  · rename_i hit
    exact ⟨⟨rfl, rfl, rfl, rfl, rfl⟩, kept row stored hit⟩
  · exact ⟨KeepsUser.refl row, fun _ _ hashed => hashed⟩

section Logins

variable {runtime : Runtime} (exact_ : ExactHashes runtime releases passwords) {draws : Draws}
  {now : Instant}

include exact_

/-- An attempt writes a new hash only of the password that it has verified. -/
theorem attempt_keepsPasswords {attempt : LoginAttempt} (known : attempt.password ∈ passwords)
    {outcome : Except Raised LoginResult}
    (ways : AttemptEnds runtime draws now attempt db outcome after)
    : KeepsPasswords releases passwords db after := by
  cases ways with
  | unsendable | unknown | inactive | locked | raised => exact KeepsPasswords.refl db
  | @failed user reaches =>
      refine .writeUser fun row _ _ plain _ hashed => ?_
      rw [failureColumns_passwordHash]
      exact hashed
  | @succeeded user rehashed reaches _ verified computed accepted =>
      refine KeepsPasswords.trans _ _ _ (.writeUser ?_) (.of_subset (List.Subset.refl _))
      intro row stored same plain among hashed
      have found := (findBy_sound (Database.userByEmail_answered reaches.found).2).1
      obtain rfl := eq_of_key_eq db.userIds stored found same
      cases rehashed with
      | none => exact hashed
      | some new =>
          have tried := (exact_.verifies plain among _ hashed _ known).mp verified
          exact ⟨runtime, exact_.current, draws.salt, tried ▸ rehash_hashes computed⟩

theorem login_keepsPasswords {payload : LoginRequest} (known : payload.password ∈ passwords)
    (request : Request) (db : Database)
    : KeepsPasswords releases passwords db
        ((login runtime draws now payload request).perform db).2 := by
  obtain ⟨outcome, middle, ways, ends⟩ :=
    attemptLogin_cases runtime draws now (loginAttempt payload request) db
  have attempted := attempt_keepsPasswords exact_ known ways
  cases outcome with
  | error error =>
      rw [show (login runtime draws now payload request).perform db = _
        from ends.raise.perform]
      exact attempted
  | ok result =>
      rw [login_answers ends]
      refine attempted.trans _ _ _ ?_
      exact
        (answerLogin_respects KeepsPasswords.requests runtime payload request result).perform
          KeepsPasswords.refl middle

end Logins

end Kept

-----------------------------------------------------------------------------------------
-- Over runs
-----------------------------------------------------------------------------------------

section Runs

variable {releases : List Runtime} {passwords : Set String}
  (exact_ : ∀ release ∈ releases, ExactHashes release releases passwords)

include exact_

/-- Any run over the releases keeps the passwords, by induction on it. -/
theorem ReleaseRuns.keepsPasswords {isPrintable : Char → Bool} {initial db : Database}
    {history : List (ReleaseCall × ServiceAnswer)}
    (ran : ReleaseRuns releases passwords isPrintable initial history db)
    : KeepsPasswords releases passwords initial db := by
  induction ran with
  | start => exact KeepsPasswords.refl initial
  | @next _ state _ event _ stepped ih =>
      obtain ⟨permitted, answered⟩ := stepped
      have step :=
        serveService_grows KeepsPasswords.requests KeepsPasswords.touches event.1.release
          isPrintable event.1.call
          (fun draws payload request asked =>
            login_keepsPasswords (exact_ _ permitted.release)
              (permitted.tried draws payload request asked) request)
          (fun draws orgId email password name _ =>
            bootstrapped_grows KeepsPasswords.requests KeepsPasswords.bootstraps
              event.1.release isPrintable draws event.1.call.now orgId email password name)
          permitted.handled state
      rw [show serveService event.1.release isPrintable state event.1.call = _
        from answered] at step
      exact ih.trans _ _ _ step

/-- The password of an account survives every run over any releases, whatever hashes they write
in place of those of the others: after it, each of the releases accepts that password for the
account and no other.
-/
theorem passwords_survive_releases (isPrintable : Char → Bool) (initial db : Database)
    (history : List (ReleaseCall × ServiceAnswer))
    (ran : ReleaseRuns releases passwords isPrintable initial history db) (user : User)
    (stored : user ∈ initial.users) (plain : String) (among : plain ∈ passwords)
    (hashed : HashOf releases plain user.passwordHash)
    : ∃ next ∈ db.users,
        KeepsUser user next
        ∧ ∀ release ∈ releases, ∀ tried ∈ passwords,
            verifyPassword release tried next.passwordHash = true ↔ tried = plain := by
  obtain ⟨next, kept, same, hashedNext⟩ :=
    ReleaseRuns.keepsPasswords exact_ ran user stored
  refine ⟨next, kept, same, fun release released tried triedAmong => ?_⟩
  exact (exact_ release released).verifies plain among _ (hashedNext plain among hashed) tried
    triedAmong

end Runs

-----------------------------------------------------------------------------------------
-- A release and back
-----------------------------------------------------------------------------------------

/-- A login of the sample user in the present release, and one in the earlier release. -/
def sampleUpdate : ReleaseCall :=
  ⟨presentRelease, ⟨0, .login ⟨"a", 1, "somesalt"⟩ samplePayload {}⟩⟩

def sampleReturn : ReleaseCall :=
  ⟨earlierRelease, ⟨1, .login ⟨"b", 2, "somesalt"⟩ samplePayload {}⟩⟩

/-- The database that a call leaves where every character is printable. -/
def afterRelease (db : Database) (served : ReleaseCall) : Database :=
  (serveRelease (fun _ => true) db served).2

/-- The database after the first login, and after the second one. -/
def updatedDatabase : Database := afterRelease earlierDatabase sampleUpdate

def returnedDatabase : Database := afterRelease updatedDatabase sampleReturn

/-- Both logins are permitted. -/
theorem sampleReleases_permitted {release : Runtime}
    (released : release ∈ [presentRelease, earlierRelease]) (now : Instant) (draws : Draws)
    : ReleaseCall.Permitted [presentRelease, earlierRelease] {"password", "differentpassword"}
        ⟨release, ⟨now, .login draws samplePayload {}⟩⟩ := by
  refine ⟨released, fun _ payload _ asked => ?_, trivial⟩
  cases asked
  exact .inl rfl

/-- The releases verify hashes alike, so they are exact about the hashes of each other. -/
theorem verifyPassword_releaseRuntime {first second : String} (fits : FitsString 128 first)
    (fitsToo : FitsString 128 second) (plain hashed : String)
    : verifyPassword (releaseRuntime first fits) plain hashed
      = verifyPassword (releaseRuntime second fitsToo) plain hashed :=
  rfl

theorem sampleReleases_exact {release : Runtime}
    (released : release ∈ [presentRelease, earlierRelease])
    : ExactHashes release [presentRelease, earlierRelease] {"password", "differentpassword"} := by
  refine ⟨released, fun plain among hashed made tried triedAmong => ?_⟩
  have present := releases_exact.verifies plain among hashed made tried triedAmong
  rcases List.mem_pair.mp released with rfl | rfl
  · exact present
  · rw [earlierRelease]
    rw [presentRelease] at present
    rwa [verifyPassword_releaseRuntime]

/-- A call that goes on with a run of the two releases. -/
theorem afterRelease_runs {db : Database} {history : List (ReleaseCall × ServiceAnswer)}
    (ran
      : ReleaseRuns [presentRelease, earlierRelease] {"password", "differentpassword"}
          (fun _ => true) earlierDatabase history db)
    (served : ReleaseCall)
    (permitted
      : served.Permitted [presentRelease, earlierRelease] {"password", "differentpassword"})
    : ReleaseRuns [presentRelease, earlierRelease] {"password", "differentpassword"}
        (fun _ => true) earlierDatabase
        ((served, (serveRelease (fun _ => true) db served).1) :: history)
        (afterRelease db served) :=
  Runs.serve ran served permitted

/-- The sample user has the password before both logins, and after them. -/
theorem sampleReleases_keep_password
    : ∃ next ∈ returnedDatabase.users,
        KeepsUser { sampleUser with passwordHash := earlierPasswordHash } next
        ∧ ∀ release ∈ [presentRelease, earlierRelease],
            ∀ tried ∈ ({"password", "differentpassword"} : Set String),
              verifyPassword release tried next.passwordHash = true ↔ tried = "password" := by
  have updated := afterRelease_runs .start sampleUpdate (sampleReleases_permitted (by simp) _ _)
  have returned := afterRelease_runs updated sampleReturn (sampleReleases_permitted (by simp) _ _)
  exact passwords_survive_releases (fun _ => sampleReleases_exact) (fun _ => true)
    earlierDatabase returnedDatabase _ returned
    { sampleUser with passwordHash := earlierPasswordHash } (by decide) "password" (.inl rfl)
    ⟨earlierRelease, by simp, "somesalt", rfl⟩

end SpecterCloud.Service
