import SpecterCloud.Auth.Login
import SpecterCloud.Foundations.FailureLockouts
import SpecterCloud.Foundations.Runs

/-! Sequential runs of `attempt_login` on one account refine the written lockout policy. -/

namespace SpecterCloud.Auth

open SpecterCloud.Foundations
open SpecterCloud.Models
open SpecterCloud.Core

/-- A call of `attempt_login`, with its time and its draws. -/
structure LoginCall where
  draws : Draws
  now : Instant
  attempt : LoginAttempt

abbrev LoginEvent := LoginCall × Except Raised LoginResult

/-- The call as a request of its own. -/
def serveLogin (runtime : Runtime) (db : Database) (call : LoginCall)
    : Except Raised LoginResult × Database :=
  (attemptLogin runtime call.draws call.now call.attempt).perform db

/-- A call ends in one of the listed ways. -/
theorem serveLogin_cases (runtime : Runtime) (db : Database) (call : LoginCall)
    : ∃ outcome after,
        AttemptEnds runtime call.draws call.now call.attempt db outcome after
        ∧ serveLogin runtime db call = (outcome, after) := by
  obtain ⟨outcome, after, ways, ends⟩ :=
    attemptLogin_cases runtime call.draws call.now call.attempt db
  exact ⟨outcome, after, ways, ends.perform⟩

/-- Runs of attempts for one email. -/
def LoginRuns (runtime : Runtime) (email : String) (initial : Database)
    (history : List LoginEvent) (db : Database)
    : Prop :=
  Runs
    (served (fun _ call => normalizeEmail runtime call.attempt.email = email)
      (serveLogin runtime))
    initial history db

/-- A refusal for a lock is not processed; an attempt that raised was answered nothing. -/
def verdictOf : Except Raised LoginResult → Verdict
  | .ok (.success _ _ _) => .succeeded
  | .ok .invalid => .failed
  | .ok (.locked _) => .ignored
  | .error _ => .ignored

/-- The history as the policy sees it. -/
def judged (history : List LoginEvent) : List (JudgedAttempt Instant) :=
  history.map (fun event => { time := event.1.now, verdict := verdictOf event.2 })

/-- The number of failed attempts that makes a lock event. -/
def policyThreshold : Nat := 5

/-- The account's row says what the policy reads off the history. -/
structure Mirrors (email : String) (history : List LoginEvent) (db : Database) (user : User)
    : Prop where
  found : db.userByEmail email = .ok (some user)
  active : user.isActive = true
  failedLoginCount : user.failedLoginCount = failures policyThreshold (judged history)
  lockedUntil
    : user.lockedUntil
      = (latestLock policyThreshold (judged history)).map (· + minutes 15)

/-- By the history alone the account is locked at a time, until 15 minutes after the latest
lock event.
-/
def LockedAt (history : List LoginEvent) (now untilTime : Instant) : Prop :=
  ∃ lock,
    latestLock policyThreshold (judged history) = some lock
    ∧ now < lock + minutes 15
    ∧ untilTime = lock + minutes 15

/-- The next attempt is answered as the policy says. An attempt that raises is answered
nothing: its password verified, but its session could not be stored.
-/
structure FollowsPolicy (runtime : Runtime) (history : List LoginEvent) (db : Database)
    (user : User) (call : LoginCall) (ended : Except Raised LoginResult × Database)
    : Prop where
  locked : ∀ untilTime, ended.1 = .ok (.locked untilTime) ↔ LockedAt history call.now untilTime
  refused : ∀ untilTime, ended.1 = .ok (.locked untilTime) → ended.2 = db
  processed
    : ∀ result, ended.1 = .ok result
      → (∀ untilTime, result ≠ .locked untilTime)
      → ((∃ owner token session, result = .success owner token session)
          ↔ verifyPassword runtime call.attempt.password user.passwordHash = true)
  raised
    : ∀ error, ended.1 = .error error
      → ended.2 = db
        ∧ verifyPassword runtime call.attempt.password user.passwordHash = true
        ∧ ∀ rehashed,
            rehash runtime call.draws.salt call.attempt.password user.passwordHash = .ok rehashed
            → ¬ (db.writeUser user.id (successColumns call.now rehashed) call.now).AcceptsSession
                  (loginSession runtime call.draws call.now call.attempt user)

section Attempts

variable {runtime : Runtime} {email : String} {history : List LoginEvent} {db : Database}
  {user : User} {call : LoginCall}

theorem judged_cons (event : LoginEvent) (history : List LoginEvent)
    : judged (event :: history)
      = { time := event.1.now, verdict := verdictOf event.2 } :: judged history :=
  rfl

theorem judged_failed (call : LoginCall) (history : List LoginEvent)
    : judged ((call, .ok .invalid) :: history)
      = { time := call.now, verdict := .failed } :: judged history :=
  rfl

/-- The attempt reaches the account, whose row the event leaves as it is. -/
theorem Mirrors.ignored (mirrors : Mirrors email history db user) {event : LoginEvent}
    (ignored : verdictOf event.2 = .ignored)
    : Mirrors email (event :: history) db user := by
  refine ⟨mirrors.found, mirrors.active, ?_, ?_⟩
  · rw [judged_cons, failures_ignored ignored]
    exact mirrors.failedLoginCount
  · have free : ¬ IsLock policyThreshold { time := event.1.now, verdict := verdictOf event.2 }
        (judged history) := by
      rintro ⟨failed, _⟩
      cases failed.symm.trans ignored
    rw [judged_cons, latestLock_kept (by simp [ignored]) free]
    exact mirrors.lockedUntil

/-- The row of the account after its columns were written. -/
theorem Mirrors.written (mirrors : Mirrors email history db user) (columns : UserColumns)
    (now : Instant)
    : (db.writeUser user.id columns now).userByEmail email
      = .ok (some (columns.write now user)) := by
  rw [Database.writeUser_userByEmail, mirrors.found]
  simp [Except.map]

/-- The stored count reaches the threshold with this failure exactly at a lock event. -/
theorem Mirrors.full (mirrors : Mirrors email history db user) (now : Instant)
    : user.failedLoginCount + 1 ≥ lockoutThreshold
      ↔ IsLock policyThreshold { time := now, verdict := .failed } (judged history) := by
  have room : failures policyThreshold (judged history) < 5 := failures_lt (by decide) _
  have locks
      : IsLock policyThreshold { time := now, verdict := .failed } (judged history)
        ↔ failures policyThreshold (judged history) + 1 = 5 :=
    and_iff_right rfl
  rw [locks, mirrors.failedLoginCount, lockoutThreshold]
  omega

/-- The columns of a failed attempt are those of the policy. -/
theorem Mirrors.failed (mirrors : Mirrors email history db user)
    : Mirrors email ((call, .ok .invalid) :: history)
        (db.writeUser user.id (failureColumns call.now user) call.now)
        ((failureColumns call.now user).write call.now user) := by
  have full := mirrors.full call.now
  by_cases lock
      : IsLock policyThreshold { time := call.now, verdict := .failed } (judged history)
  · refine ⟨mirrors.written _ _, mirrors.active, ?_, ?_⟩
    · rw [judged_failed, failures_lock lock, failureColumns, if_pos (full.mpr lock)]
      rfl
    · rw [judged_failed, latestLock_lock lock, failureColumns, if_pos (full.mpr lock)]
      rfl
  · have counted : ¬ user.failedLoginCount + 1 ≥ lockoutThreshold :=
      fun reached => lock (full.mp reached)
    refine ⟨mirrors.written _ _, mirrors.active, ?_, ?_⟩
    · rw [judged_failed, failures_failed rfl lock, failureColumns, if_neg counted]
      show user.failedLoginCount + 1 = _
      rw [mirrors.failedLoginCount]
      rfl
    · have unsuccessful : Verdict.failed ≠ Verdict.succeeded := by simp
      rw [judged_failed, latestLock_kept unsuccessful lock, failureColumns, if_neg counted]
      exact mirrors.lockedUntil

/-- The columns of a successful attempt are those of the policy. -/
theorem Mirrors.succeeded (mirrors : Mirrors email history db user) {rehashed : Option String}
    {owner : User} {token : String} {session : Session}
    (accepted
      : (db.writeUser user.id (successColumns call.now rehashed) call.now).AcceptsSession
          session)
    : Mirrors email ((call, .ok (.success owner token session)) :: history)
        ((db.writeUser user.id (successColumns call.now rehashed) call.now).withSession session
          accepted)
        ((successColumns call.now rehashed).write call.now user) := by
  refine ⟨mirrors.written _ _, mirrors.active, ?_, ?_⟩
  · rw [judged_cons, failures_succeeded rfl]
    rfl
  · rw [judged_cons, latestLock_succeeded rfl]
    rfl

/-- An attempt for the account reaches it. -/
theorem Mirrors.reaches (mirrors : Mirrors email history db user)
    (named : normalizeEmail runtime call.attempt.email = email)
    : Reaches runtime call.attempt db user :=
  ⟨named ▸ mirrors.found, mirrors.active⟩

/-- One more attempt keeps the account's row the mirror of the history. -/
theorem Mirrors.step (mirrors : Mirrors email history db user)
    (named : normalizeEmail runtime call.attempt.email = email)
    : ∃ user,
        Mirrors email ((call, (serveLogin runtime db call).1) :: history)
          (serveLogin runtime db call).2 user := by
  obtain ⟨outcome, after, ways, served⟩ := serveLogin_cases runtime db call
  rw [served]
  rcases ways.reached (mirrors.reaches named) with
    ⟨_, _, _, rfl, rfl⟩ | ⟨_, _, rfl, rfl⟩ | ⟨_, _, _, accepted, _, rfl, rfl⟩
    | ⟨_, _, _, _, rfl, rfl⟩
  · exact ⟨user, mirrors.ignored rfl⟩
  · exact ⟨_, mirrors.failed⟩
  · exact ⟨_, mirrors.succeeded accepted⟩
  · exact ⟨user, mirrors.ignored rfl⟩

/-- The stored lock lies ahead exactly when the history has the account locked. -/
theorem Mirrors.lockedAt (mirrors : Mirrors email history db user) (now untilTime : Instant)
    : LockedAt history now untilTime ↔ user.lockedUntil = some untilTime ∧ now < untilTime := by
  rw [mirrors.lockedUntil, Option.map_eq_some_iff]
  constructor
  · rintro ⟨lock, latest, ahead, rfl⟩
    exact ⟨⟨lock, latest, rfl⟩, ahead⟩
  · rintro ⟨⟨lock, latest, rfl⟩, ahead⟩
    exact ⟨lock, latest, ahead, rfl⟩

/-- An unlocked account is not locked by the history. -/
theorem Mirrors.unlocked (mirrors : Mirrors email history db user) {now : Instant}
    (unlocked : Unlocked now user) (untilTime : Instant)
    : ¬ LockedAt history now untilTime := by
  rw [mirrors.lockedAt]
  rintro ⟨lock, ahead⟩
  exact Int.not_lt.mpr (unlocked untilTime lock) ahead

/-- Every attempt on an account that mirrors the history is answered as the policy says. -/
theorem Mirrors.followsPolicy (mirrors : Mirrors email history db user)
    (named : normalizeEmail runtime call.attempt.email = email)
    : FollowsPolicy runtime history db user call (serveLogin runtime db call) := by
  obtain ⟨outcome, after, ways, served⟩ := serveLogin_cases runtime db call
  rw [served]
  rcases ways.reached (mirrors.reaches named) with
    ⟨lockedUntil, lock, ahead, rfl, rfl⟩ | ⟨unlocked, wrong, rfl, rfl⟩
    | ⟨unlocked, verified, _, _, _, rfl, rfl⟩ | ⟨unlocked, verified, rejected, _, rfl, rfl⟩
  · refine ⟨?_, fun _ _ => rfl, ?_, fun _ => nofun⟩
    · intro untilTime
      rw [mirrors.lockedAt]
      constructor
      · rintro ⟨⟩
        exact ⟨lock, ahead⟩
      · rintro ⟨same, _⟩
        cases lock.symm.trans same
        rfl
    · rintro _ ⟨⟩ processed
      exact absurd rfl (processed lockedUntil)
  · refine ⟨fun untilTime => iff_of_false nofun (mirrors.unlocked unlocked untilTime),
      fun _ => nofun, ?_, fun _ => nofun⟩
    rintro _ ⟨⟩ _
    exact iff_of_false (by simp) (by simp [wrong])
  · refine ⟨fun untilTime => iff_of_false nofun (mirrors.unlocked unlocked untilTime),
      fun _ => nofun, ?_, fun _ => nofun⟩
    rintro _ ⟨⟩ _
    exact iff_of_true ⟨_, _, _, rfl⟩ verified
  · exact ⟨fun untilTime => iff_of_false nofun (mirrors.unlocked unlocked untilTime),
      fun _ => nofun, fun _ => nofun, fun _ _ => ⟨rfl, verified, rejected⟩⟩

end Attempts

/-- A wrong password for the sample user. -/
def sampleGuess : LoginCall where
  draws := ⟨"a", 1, "somesalt"⟩
  now := 0
  attempt := { email := "admin@specter.example", password := "guess" }

end SpecterCloud.Auth
