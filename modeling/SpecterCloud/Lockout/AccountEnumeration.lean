import SpecterCloud.Api.Answers
import SpecterCloud.Auditing.LoginRequests
import SpecterCloud.Lockout.PolicyRefinement

/-! Logins with wrong passwords for an email, on a database where it belongs to an account and on
one where it does not. The answers are the same but for the lock, which only an account can
have.
-/

namespace SpecterCloud.Api

open SpecterCloud.Foundations
open SpecterCloud.Models
open SpecterCloud.Core
open SpecterCloud.Auth

/-- A `POST /login`, with its time and its draws. -/
structure LoginPost where
  draws : Draws
  now : Instant
  payload : LoginRequest
  request : Request

/-- The post as a request of its own. -/
def servePost (runtime : Runtime) (db : Database) (post : LoginPost)
    : Except Raised LoginResponse × Database :=
  (login runtime post.draws post.now post.payload post.request).perform db

/-- The database after posts, which have the latest first. -/
def afterPosts (runtime : Runtime) (db : Database) : List LoginPost → Database
  | [] => db
  | post :: earlier => (servePost runtime (afterPosts runtime db earlier) post).2

/-- The answer to a post after earlier ones. -/
def answerPost (runtime : Runtime) (db : Database) (earlier : List LoginPost)
    (post : LoginPost)
    : HttpAnswer :=
  loginAnswer (servePost runtime (afterPosts runtime db earlier) post).1

/-- The answers to posts, the latest first. -/
def answers (runtime : Runtime) (db : Database) : List LoginPost → List HttpAnswer
  | [] => []
  | post :: earlier => answerPost runtime db earlier post :: answers runtime db earlier

/-- A post for the email without the password of the account. -/
structure WrongPost (runtime : Runtime) (email : String) (account : User) (post : LoginPost)
    : Prop where
  email : normalizeEmail runtime post.payload.email = email
  password : verifyPassword runtime post.payload.password account.passwordHash = false

/-- The end of the lock that the policy reads off a history, if it lies ahead. -/
def lockAhead (history : List LoginEvent) (now : Instant) : Option Instant :=
  ((latestLock policyThreshold (judged history)).map (· + minutes 15)).filter
    (fun untilTime => now < untilTime)

/-- The attempts of posts with wrong passwords: failures, and refusals while a lock lies ahead. -/
def wrongAttempts : List LoginPost → List LoginEvent
  | [] => []
  | post :: earlier =>
      (⟨post.draws, post.now, loginAttempt post.payload post.request⟩,
        match lockAhead (wrongAttempts earlier) post.now with
        | some untilTime => .ok (.locked untilTime)
        | none => .ok .invalid)
        :: wrongAttempts earlier

/-- The post comes while the account is locked by the posts before it, and its audit row fits. -/
def MeetsLock (earlier : List LoginPost) (post : LoginPost) : Prop :=
  (lockAhead (wrongAttempts earlier) post.now).isSome = true
  ∧ NullOr (FitsString 500) post.request.userAgent

instance (earlier : List LoginPost) (post : LoginPost) : Decidable (MeetsLock earlier post) :=
  inferInstanceAs (Decidable (_ ∧ _))

/-- No post comes while the account is locked by the posts before it. -/
def NeverMeetsLock : List LoginPost → Prop
  | [] => True
  | post :: earlier => ¬ MeetsLock earlier post ∧ NeverMeetsLock earlier

section Refusals

variable {runtime : Runtime} {post : LoginPost} {db middle : Database} {result : LoginResult}

/-- The answer that belongs to a refusal. -/
def refusalAnswer : LoginResult → HttpAnswer
  | .locked _ => accountLocked
  | _ => invalidCredentials

/-- The answer to a refusal is its own if its audit row fits, and a 500 if it does not; either
way the users stay as they are.
-/
theorem answerLogin_refuses {payload : LoginRequest} {request : Request}
    (refused : ∀ user token session, result ≠ .success user token session)
    (storable : Storable (normalizeEmail runtime payload.email))
    : ∃ outcome after,
        (answerLogin runtime payload request result).Ends middle outcome after
        ∧ loginAnswer outcome
          = (if NullOr (FitsString 500) request.userAgent then
              refusalAnswer result
            else
              globalExceptionHandler)
        ∧ after.users = middle.users := by
  have valid := resultEntry_valid runtime payload request result
  by_cases userAgent : NullOr (FitsString 500) request.userAgent
  · rw [if_pos userAgent]
    have accepted : middle.AcceptsAuditLog (resultEntry runtime payload request result) :=
      resultEntry_accepted storable userAgent
        (fun user token session same => absurd same (refused user token session))
    cases result with
    | success user token session => exact absurd rfl (refused user token session)
    | invalid =>
        exact ⟨_, _, Audit.write_committed valid accepted (Action.Ends.throw _), rfl, rfl⟩
    | locked untilTime =>
        exact ⟨_, _, Audit.write_committed valid accepted (Action.Ends.throw _), rfl, rfl⟩
  · rw [if_neg userAgent]
    have unfit : ¬ (resultEntry runtime payload request result).Fits := by
      intro fits
      have fitting := fits.userAgent
      rw [resultEntry_userAgent] at fitting
      exact userAgent fitting
    have failed
        : middle.insertAuditLog (resultEntry runtime payload request result)
          = .error (.dataError "audit_log") :=
      if_pos unfit
    cases result with
    | success user token session => exact absurd rfl (refused user token session)
    | invalid => exact ⟨_, _, Audit.write_refused valid failed, rfl, rfl⟩
    | locked untilTime => exact ⟨_, _, Audit.write_refused valid failed, rfl, rfl⟩

/-- So is the answer to a post whose attempt is refused. -/
theorem servePost_refused
    (ends
      : (attemptLogin runtime post.draws post.now (loginAttempt post.payload post.request)).Ends
          db (.ok result) middle)
    (refused : ∀ user token session, result ≠ .success user token session)
    (storable : Storable (normalizeEmail runtime post.payload.email))
    : loginAnswer (servePost runtime db post).1
        = (if NullOr (FitsString 500) post.request.userAgent then
            refusalAnswer result
          else
            globalExceptionHandler)
      ∧ (servePost runtime db post).2.users = middle.users := by
  obtain ⟨outcome, after, answered, same, users⟩ := answerLogin_refuses refused storable
  rw [show servePost runtime db post = (outcome, after) from (ends.bind answered).perform]
  exact ⟨same, users⟩

end Refusals

section Posts

variable {runtime : Runtime} {email : String} {account : User} {post : LoginPost}
  {posts : List LoginPost} {registered unregistered db : Database} {user : User}

/-- A post for an email without an account leaves the users as they are. -/
theorem servePost_unregistered (missing : db.userByEmail email = .ok none)
    (named : normalizeEmail runtime post.payload.email = email)
    : loginAnswer (servePost runtime db post).1
        = (if NullOr (FitsString 500) post.request.userAgent then
            invalidCredentials
          else
            globalExceptionHandler)
      ∧ (servePost runtime db post).2.users = db.users := by
  subst named
  have ends
      : (attemptLogin runtime post.draws post.now (loginAttempt post.payload post.request)).Ends
          db (.ok .invalid) db :=
    Action.Ends.selected missing (Action.Ends.computed rfl (Action.Ends.pure _))
  exact servePost_refused ends (by simp) (Database.userByEmail_answered missing).1

/-- Posts for an email without an account leave it without one, by induction on the posts. -/
theorem afterPosts_unregistered (missing : unregistered.userByEmail email = .ok none)
    (named : ∀ post ∈ posts, normalizeEmail runtime post.payload.email = email)
    : (afterPosts runtime unregistered posts).userByEmail email = .ok none := by
  induction posts with
  | nil => exact missing
  | cons post earlier ih =>
      have before := ih (fun other member => named other (.tail _ member))
      have users := (servePost_unregistered before (named post (.head _))).2
      exact (Database.userByEmail_congr users email).trans before

/-- The account mirrors a history whatever happens outside the users. -/
theorem Mirrors.congr {history : List LoginEvent} (mirrors : Mirrors email history db user)
    {after : Database} (same : after.users = db.users)
    : Mirrors email history after user :=
  { mirrors with found := (Database.userByEmail_congr same email).trans mirrors.found }

/-- The lock lies ahead exactly when the history has the account locked. -/
theorem lockAhead_eq_some {history : List LoginEvent} {now untilTime : Instant}
    : lockAhead history now = some untilTime ↔ LockedAt history now untilTime := by
  unfold lockAhead LockedAt
  rw [Option.filter_eq_some_iff, Option.map_eq_some_iff, decide_eq_true_eq]
  constructor
  · rintro ⟨⟨lock, latest, rfl⟩, ahead⟩
    exact ⟨lock, latest, ahead, rfl⟩
  · rintro ⟨lock, latest, ahead, rfl⟩
    exact ⟨⟨lock, latest, rfl⟩, ahead⟩

/-- A post with a wrong password for the account is answered by the lock, or as bad credentials
are, and the account mirrors one more attempt under the same password.
-/
theorem servePost_registered (mirrors : Mirrors email (wrongAttempts posts) db user)
    (wrong : WrongPost runtime email user post)
    : loginAnswer (servePost runtime db post).1
        = (if MeetsLock posts post then
            accountLocked
          else if NullOr (FitsString 500) post.request.userAgent then
            invalidCredentials
          else
            globalExceptionHandler)
      ∧ ∃ after,
          Mirrors email (wrongAttempts (post :: posts)) (servePost runtime db post).2 after
          ∧ after.passwordHash = user.passwordHash := by
  obtain ⟨rfl, wrong⟩ := wrong
  obtain ⟨outcome, middle, ways, ends⟩ :=
    attemptLogin_cases runtime post.draws post.now (loginAttempt post.payload post.request) db
  have reaches : Reaches runtime (loginAttempt post.payload post.request) db user :=
    ⟨mirrors.found, mirrors.active⟩
  have storable := (Database.userByEmail_answered reaches.found).1
  rcases ways.reached reaches with
    ⟨untilTime, lock, ahead, rfl, rfl⟩ | ⟨unlocked, _, rfl, rfl⟩ | ⟨_, verified, _⟩
    | ⟨_, verified, _⟩
  · have locked : lockAhead (wrongAttempts posts) post.now = some untilTime :=
      lockAhead_eq_some.mpr ((mirrors.lockedAt post.now untilTime).mpr ⟨lock, ahead⟩)
    obtain ⟨answered, users⟩ := servePost_refused ends (by simp) storable
    refine ⟨?_, user, ?_, rfl⟩
    · rw [answered]
      by_cases userAgent : NullOr (FitsString 500) post.request.userAgent
      · simp [MeetsLock, locked, refusalAnswer, userAgent]
      · simp [MeetsLock, userAgent]
    · refine Mirrors.congr ?_ users
      simp only [wrongAttempts, locked]
      exact mirrors.ignored rfl
  · have free : lockAhead (wrongAttempts posts) post.now = none := by
      rw [Option.eq_none_iff_forall_ne_some]
      intro untilTime locked
      exact mirrors.unlocked unlocked untilTime (lockAhead_eq_some.mp locked)
    obtain ⟨answered, users⟩ := servePost_refused ends (by simp) storable
    refine ⟨?_, (failureColumns post.now user).write post.now user, ?_, ?_⟩
    · rw [answered]
      simp [MeetsLock, free, refusalAnswer]
    · refine Mirrors.congr ?_ users
      simp only [wrongAttempts, free]
      exact mirrors.failed
    · simp [UserColumns.write, failureColumns_passwordHash]
  · cases wrong.symm.trans verified
  · cases wrong.symm.trans verified

/-- Posts with wrong passwords leave the account mirroring them, by induction on the posts. -/
theorem afterPosts_registered (found : registered.userByEmail email = .ok (some account))
    (active : account.isActive = true) (uncounted : account.failedLoginCount = 0)
    (unlocked : account.lockedUntil = none)
    (wrong : ∀ post ∈ posts, WrongPost runtime email account post)
    : ∃ user,
        Mirrors email (wrongAttempts posts) (afterPosts runtime registered posts) user
        ∧ user.passwordHash = account.passwordHash := by
  induction posts with
  | nil => exact ⟨account, ⟨found, active, uncounted, unlocked⟩, rfl⟩
  | cons post earlier ih =>
      obtain ⟨user, mirrors, same⟩ := ih (fun other member => wrong other (.tail _ member))
      have wrongPost : WrongPost runtime email user post := by
        have ofAccount := wrong post (.head _)
        exact ⟨ofAccount.email, same ▸ ofAccount.password⟩
      obtain ⟨after, mirrored, kept⟩ := (servePost_registered mirrors wrongPost).2
      exact ⟨after, mirrored, kept.trans same⟩

/-- The two answers to one post. -/
theorem answerPost_registered (found : registered.userByEmail email = .ok (some account))
    (active : account.isActive = true) (uncounted : account.failedLoginCount = 0)
    (unlocked : account.lockedUntil = none) (missing : unregistered.userByEmail email = .ok none)
    (wrong : ∀ other ∈ post :: posts, WrongPost runtime email account other)
    : answerPost runtime registered posts post
      = if MeetsLock posts post then
          accountLocked
        else
          answerPost runtime unregistered posts post := by
  have before := fun other member => wrong other (.tail post member)
  obtain ⟨user, mirrors, same⟩ := afterPosts_registered found active uncounted unlocked before
  have ofAccount := wrong post (.head _)
  have wrongPost : WrongPost runtime email user post :=
    ⟨ofAccount.email, same ▸ ofAccount.password⟩
  have still := afterPosts_unregistered missing (fun other member => (before other member).email)
  unfold answerPost
  rw [(servePost_registered mirrors wrongPost).1,
    (servePost_unregistered still ofAccount.email).1]

/-- A lock is not answered to an email without an account. -/
theorem answerPost_unregistered_ne (missing : unregistered.userByEmail email = .ok none)
    (named : ∀ other ∈ post :: posts, normalizeEmail runtime other.payload.email = email)
    : answerPost runtime unregistered posts post ≠ accountLocked := by
  have still := afterPosts_unregistered missing (fun other member => named other (.tail _ member))
  unfold answerPost
  rw [(servePost_unregistered still (named post (.head _))).1]
  split <;> decide

theorem wrongAttempts_length (posts : List LoginPost)
    : (wrongAttempts posts).length = posts.length := by
  induction posts with
  | nil => rfl
  | cons post earlier ih => simp [wrongAttempts, ih]

/-- Fewer posts than the threshold do not lock. -/
theorem not_meetsLock_short (short : posts.length < policyThreshold) : ¬ MeetsLock posts post := by
  have unlocked : latestLock policyThreshold (judged (wrongAttempts posts)) = none :=
    latestLock_short (by rwa [judged, List.length_map, wrongAttempts_length])
  rintro ⟨locked, _⟩
  simp [lockAhead, unlocked] at locked

/-- Posts that are fewer than the threshold, or as many, meet no lock. -/
theorem neverMeetsLock_short (short : posts.length ≤ policyThreshold) : NeverMeetsLock posts := by
  induction posts with
  | nil => trivial
  | cons post earlier ih =>
      rw [List.length_cons] at short
      exact ⟨not_meetsLock_short short, ih (by omega)⟩

/-- The answers are the same exactly when no post meets a lock, by induction on the posts. -/
theorem answers_eq_iff (found : registered.userByEmail email = .ok (some account))
    (active : account.isActive = true) (uncounted : account.failedLoginCount = 0)
    (unlocked : account.lockedUntil = none) (missing : unregistered.userByEmail email = .ok none)
    (wrong : ∀ post ∈ posts, WrongPost runtime email account post)
    : answers runtime registered posts = answers runtime unregistered posts
      ↔ NeverMeetsLock posts := by
  induction posts with
  | nil => exact iff_of_true rfl trivial
  | cons post earlier ih =>
      have answered := answerPost_registered found active uncounted unlocked missing wrong
      have other :=
        answerPost_unregistered_ne missing (fun other member => (wrong other member).email)
      rw [answers, answers, List.cons.injEq, NeverMeetsLock,
        ih (fun other member => wrong other (.tail _ member)), answered]
      refine and_congr_left fun _ => ?_
      split
      · rename_i meets
        exact iff_of_false other.symm (not_not.mpr meets)
      · rename_i misses
        exact iff_of_true rfl misses

end Posts

/-- The access tables without the grants of an account. -/
def withoutGrants (account : User) (tables : AccessTables) : AccessTables :=
  { tables with
    userRoles := tables.userRoles.filter (fun grant => grant.userId ≠ account.id)
    grantKeys := tables.grantKeys.sublist (List.filter_sublist.map UserRole.key) }

/-- The database without an account and its grants, sessions and audit rows. -/
def withoutAccount (account : User) (db : Database) : Database where
  toAccessTables := withoutGrants account db.toAccessTables
  users := db.users.filter (fun user => user.id ≠ account.id)
  sessions := db.sessions.filter (fun sess => sess.userId ≠ account.id)
  auditLog := db.auditLog.filter (fun row => row.userId ≠ some account.id)
  orgSlugs := db.orgSlugs
  userIds := db.userIds.sublist (List.filter_sublist.map User.id)
  userEmails := db.userEmails.sublist (List.filter_sublist.map User.email)
  sessionIds := db.sessionIds.sublist (List.filter_sublist.map Session.id)
  sessionTokenHashes := db.sessionTokenHashes.sublist (List.filter_sublist.map Session.tokenHash)
  userOrgs := fun user member => db.userOrgs user (List.mem_of_mem_filter member)
  userEmailsStorable := fun user member =>
    db.userEmailsStorable user (List.mem_of_mem_filter member)
  roleNamesStorable := db.roleNamesStorable

/-- The sample database without its user. -/
def sampleUnregistered : Database := withoutAccount sampleUser sampleDatabase

/-- A post with a wrong password for the sample user. -/
def samplePost : LoginPost where
  draws := ⟨"a", 1, "somesalt"⟩
  now := 0
  payload := sampleLogin
  request := { userAgent := some "curl/8.5.0" }

theorem samplePost_wrong (n : Nat)
    : ∀ post ∈ List.replicate n samplePost,
        WrongPost sampleRuntime "admin@specter.example" sampleUser post := by
  intro post member
  obtain rfl := List.eq_of_mem_replicate member
  exact ⟨by decide, by decide⟩

end SpecterCloud.Api
