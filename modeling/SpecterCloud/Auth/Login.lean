import SpecterCloud.Auth.Passwords
import SpecterCloud.Auth.Sessions
import SpecterCloud.Core.PythonText

/-! The login flow and its account lockout. -/

namespace SpecterCloud.Auth

open SpecterCloud.Foundations
open SpecterCloud.Models
open SpecterCloud.Core

/-- `LOCKOUT_THRESHOLD`. -/
def lockoutThreshold : Int := 5

/-- `LOCKOUT_DURATION_MINUTES`. -/
def lockoutDurationMinutes : Int := 15

inductive LoginResult
  | success (user : User) (rawToken : String) (session : Session)
  | invalid
  | locked (untilTime : Instant)

/-- `email.strip().lower()`. -/
def normalizeEmail (runtime : Runtime) (email : String) : String := runtime.lower (strip email)

/-- The arguments of a call of `attempt_login`. -/
structure LoginAttempt where
  email : String
  password : String
  transport : SessionTransport := .cookie
  userAgent : Option String := none
  ipAddress : Option IpAddress := none

/-- The columns that a failed attempt writes. -/
def failureColumns (now : Instant) (user : User) : UserColumns :=
  let failedLoginCount := user.failedLoginCount + 1
  if failedLoginCount ≥ lockoutThreshold then
    {
      failedLoginCount := some 0
      lockedUntil := some (some (now + minutes lockoutDurationMinutes))
    }
  else
    { failedLoginCount := some failedLoginCount }

/-- The columns that a successful attempt writes, with the new hash if there is one. -/
def successColumns (now : Instant) (rehashed : Option String) : UserColumns :=
  {
    passwordHash := rehashed
    lastLoginAt := some (some now)
    failedLoginCount := some 0
    lockedUntil := some none
  }

/-- The new hash of a password whose stored hash has outdated parameters. -/
def rehash (runtime : Runtime) (salt password hashed : String)
    : Except Raised (Option String) :=
  if needsRehash runtime hashed then
    (hashPassword runtime salt password).map some
  else
    .ok none

/-- The failure path of `attempt_login`. -/
def recordFailure (now : Instant) (user : User) : DbAction LoginResult := do
  Action.add (Database.updateUser user.id (failureColumns now user) now)
  Action.commit
  return .invalid

/-- The success path of `attempt_login`. -/
def completeLogin (runtime : Runtime) (draws : Draws) (now : Instant) (attempt : LoginAttempt)
    (user : User)
    : DbAction LoginResult := do
  let rehashed ←
    Action.ofExcept (rehash runtime draws.salt attempt.password user.passwordHash)
  let columns := successColumns now rehashed
  Action.add (Database.updateUser user.id columns now)
  let (rawToken, sess) ←
    createSession runtime draws now user.id attempt.transport attempt.userAgent
      attempt.ipAddress
  Action.commit
  return .success (columns.write now user) rawToken sess

/-- `attempt_login`. -/
def attemptLogin (runtime : Runtime) (draws : Draws) (now : Instant) (attempt : LoginAttempt)
    : DbAction LoginResult := do
  let email := normalizeEmail runtime attempt.email
  match ← Action.select (fun db => db.userByEmail email) with
  | none => do
      let _ ← Action.ofExcept (hashPassword runtime draws.salt "placeholder-to-burn-cpu")
      return .invalid
  | some user =>
      if !user.isActive then
        return .invalid
      else
        match user.lockedUntil.filter (fun untilTime => untilTime > now) with
        | some untilTime => return .locked untilTime
        | none =>
            if !verifyPassword runtime attempt.password user.passwordHash then
              recordFailure now user
            else
              completeLogin runtime draws now attempt user

-----------------------------------------------------------------------------------------
-- What an attempt does
-----------------------------------------------------------------------------------------

/-- No lock of the user lies ahead. -/
def Unlocked (now : Instant) (user : User) : Prop :=
  ∀ untilTime, user.lockedUntil = some untilTime → untilTime ≤ now

/-- No lock lies ahead exactly when the test of `attempt_login` finds none. -/
theorem unlocked_iff {now : Instant} {user : User}
    : Unlocked now user
      ↔ user.lockedUntil.filter (fun untilTime => untilTime > now) = none := by
  simp [Unlocked, Option.filter_eq_none_iff]

section Attempts

variable (runtime : Runtime) (draws : Draws) (now : Instant) (attempt : LoginAttempt)
  (db : Database)

/-- The row that a successful attempt inserts. -/
def loginSession (user : User) : Session :=
  newSession runtime draws now user.id attempt.transport attempt.userAgent attempt.ipAddress

/-- The account that an attempt reaches, and what is checked of it before the password. -/
structure Reaches (user : User) : Prop where
  found : db.userByEmail (normalizeEmail runtime attempt.email) = .ok (some user)
  active : user.isActive = true

/-- Every way an attempt can end: its answer or exception, and what is then committed. -/
inductive AttemptEnds : Except Raised LoginResult → Database → Prop
  | unsendable (unstorable : ¬ Storable (normalizeEmail runtime attempt.email))
      : AttemptEnds (.error (.dataError "users")) db
  | unknown (unknown : db.userByEmail (normalizeEmail runtime attempt.email) = .ok none)
      : AttemptEnds (.ok .invalid) db
  | inactive {user : User}
      (found : db.userByEmail (normalizeEmail runtime attempt.email) = .ok (some user))
      (inactive : user.isActive = false)
      : AttemptEnds (.ok .invalid) db
  | locked {user : User} {untilTime : Instant} (reaches : Reaches runtime attempt db user)
      (lock : user.lockedUntil = some untilTime) (ahead : now < untilTime)
      : AttemptEnds (.ok (.locked untilTime)) db
  | failed {user : User} (reaches : Reaches runtime attempt db user)
      (unlocked : Unlocked now user)
      (wrong : verifyPassword runtime attempt.password user.passwordHash = false)
      : AttemptEnds (.ok .invalid) (db.writeUser user.id (failureColumns now user) now)
  | succeeded {user : User} {rehashed : Option String}
      (reaches : Reaches runtime attempt db user) (unlocked : Unlocked now user)
      (verified : verifyPassword runtime attempt.password user.passwordHash = true)
      (hashed : rehash runtime draws.salt attempt.password user.passwordHash = .ok rehashed)
      (accepted
        : (db.writeUser user.id (successColumns now rehashed) now).AcceptsSession
            (loginSession runtime draws now attempt user))
      : AttemptEnds
          (.ok
            (.success ((successColumns now rehashed).write now user) draws.token
              (loginSession runtime draws now attempt user)))
          ((db.writeUser user.id (successColumns now rehashed) now).withSession _ accepted)
  | raised {user : User} {error : Raised} (reaches : Reaches runtime attempt db user)
      (unlocked : Unlocked now user)
      (verified : verifyPassword runtime attempt.password user.passwordHash = true)
      (rejected
        : ∀ rehashed,
            rehash runtime draws.salt attempt.password user.passwordHash = .ok rehashed
            → ¬ (db.writeUser user.id (successColumns now rehashed) now).AcceptsSession
                  (loginSession runtime draws now attempt user))
      : AttemptEnds (.error error) db

variable {runtime draws now attempt db}

/-- A password that is not empty can be hashed again. -/
theorem rehash_computes {salt password : String} (present : password ≠ "") (hashed : String)
    : ∃ rehashed, rehash runtime salt password hashed = .ok rehashed := by
  unfold rehash
  split
  · rw [hashPassword_computes present]
    exact ⟨_, rfl⟩
  · exact ⟨_, rfl⟩

/-- A new hash is one of the password. -/
theorem rehash_hashes {salt password hashed new : String}
    (computed : rehash runtime salt password hashed = .ok (some new))
    : hashPassword runtime salt password = .ok new := by
  unfold rehash at computed
  split at computed
  · cases fresh : hashPassword runtime salt password with
    | error error =>
        rw [fresh] at computed
        cases computed
    | ok other =>
        rw [fresh] at computed
        cases computed
        rfl
  · cases computed

/-- A new hash fits its column. -/
theorem rehash_fits {salt password hashed : String} {rehashed : Option String}
    (computed : rehash runtime salt password hashed = .ok rehashed)
    : NullOr (FitsString 128) rehashed := by
  cases rehashed with
  | none => trivial
  | some new => exact hashPassword_fits (rehash_hashes computed)

/-- A failed attempt never writes the password hash. -/
theorem failureColumns_passwordHash (now : Instant) (user : User)
    : (failureColumns now user).passwordHash = none := by
  simp only [failureColumns]
  split <;> rfl

/-- On an account that it reaches and that is unlocked, the attempt comes to the password. -/
theorem attemptLogin_verifies {user : User} (reaches : Reaches runtime attempt db user)
    (unlocked : Unlocked now user) {outcome : Except Raised LoginResult} {after : Database}
    (rest
      : Action.Ends
          (if !verifyPassword runtime attempt.password user.passwordHash then
            recordFailure now user
          else
            completeLogin runtime draws now attempt user)
          db outcome after)
    : (attemptLogin runtime draws now attempt).Ends db outcome after := by
  unfold attemptLogin
  refine Action.Ends.selected reaches.found ?_
  simp only [reaches.active, unlocked_iff.mp unlocked]
  exact rest

/-- The failure path commits its columns. -/
theorem recordFailure_ends (user : User)
    : (recordFailure now user).Ends db (.ok .invalid)
        (db.writeUser user.id (failureColumns now user) now) := by
  refine Action.Ends.committed (if_pos ?_) (Action.Ends.pure _)
  rw [failureColumns_passwordHash]
  trivial

/-- What the success path sends: the user's columns, then the session. -/
theorem sent_loginSession (now : Instant) (attempt : LoginAttempt) (db : Database)
    {user : User} {rehashed : Option String}
    (hashed : rehash runtime draws.salt attempt.password user.passwordHash = .ok rehashed)
    : runAll
        [Database.updateUser user.id (successColumns now rehashed) now,
          Database.insertSession (loginSession runtime draws now attempt user)]
        db
      = (db.writeUser user.id (successColumns now rehashed) now).insertSession
          (loginSession runtime draws now attempt user) := by
  have written
      : db.updateUser user.id (successColumns now rehashed) now
        = .ok (db.writeUser user.id (successColumns now rehashed) now) :=
    if_pos (rehash_fits hashed)
  rw [runAll_cons, written]
  show Except.bind (Database.insertSession _ _) (runAll []) = _
  cases Database.insertSession _ _ <;> rfl

/-- The success path flushes its columns and its session, and commits them if the database
accepts the session.
-/
theorem completeLogin_run (now : Instant) (db : Database) {user : User}
    {rehashed : Option String}
    (hashed : rehash runtime draws.salt attempt.password user.passwordHash = .ok rehashed)
    : (completeLogin runtime draws now attempt user).run (.opened db)
      = match (db.writeUser user.id (successColumns now rehashed) now).insertSession
            (loginSession runtime draws now attempt user) with
        | .ok next =>
            .ok
              (.success ((successColumns now rehashed).write now user) draws.token
                (loginSession runtime draws now attempt user))
              (.opened next)
        | .error error =>
            .error error { committed := db, view := db, pending := [], status := .inactive } := by
  have sent := sent_loginSession now attempt db hashed
  rw [completeLogin, hashed, UnitOfWork.opened, EStateM.run_bind, Action.ofExcept_run]
  simp only [EStateM.run_bind, Action.add_run, createSession_run, List.nil_append,
    List.cons_append]
  rw [show newSession _ _ _ _ _ _ _ = loginSession runtime draws now attempt user from rfl,
    sent]
  cases Database.insertSession _ _ <;> rfl

/-- The success path commits its columns and its session together. -/
theorem completeLogin_ends {user : User} {rehashed : Option String}
    (hashed : rehash runtime draws.salt attempt.password user.passwordHash = .ok rehashed)
    (accepted
      : (db.writeUser user.id (successColumns now rehashed) now).AcceptsSession
          (loginSession runtime draws now attempt user))
    : (completeLogin runtime draws now attempt user).Ends db
        (.ok
          (.success ((successColumns now rehashed).write now user) draws.token
            (loginSession runtime draws now attempt user)))
        ((db.writeUser user.id (successColumns now rehashed) now).withSession _ accepted) := by
  have ran := completeLogin_run now db hashed
  rwa [Database.insertSession_accepted accepted] at ran

/-- When the session is not accepted the success path raises and commits nothing. -/
theorem completeLogin_raises {user : User}
    (rejected
      : ∀ rehashed,
          rehash runtime draws.salt attempt.password user.passwordHash = .ok rehashed
          → ¬ (db.writeUser user.id (successColumns now rehashed) now).AcceptsSession
                (loginSession runtime draws now attempt user))
    : ∃ error, (completeLogin runtime draws now attempt user).Ends db (.error error) db := by
  cases hashed : rehash runtime draws.salt attempt.password user.passwordHash with
  | error error =>
      exact ⟨error, Action.Ends.raise (hashed ▸ Action.Ends.ofExcept _)⟩
  | ok rehashed =>
      obtain ⟨error, refused⟩ := Database.insertSession_rejected (rejected rehashed hashed)
      have ran := completeLogin_run now db hashed
      rw [refused] at ran
      exact ⟨error, _, ran, rfl⟩

/-- An attempt whose password verifies succeeds or raises. -/
theorem attemptLogin_verified_cases {user : User} (reaches : Reaches runtime attempt db user)
    (unlocked : Unlocked now user)
    (verified : verifyPassword runtime attempt.password user.passwordHash = true)
    : ∃ outcome after,
        AttemptEnds runtime draws now attempt db outcome after
        ∧ (attemptLogin runtime draws now attempt).Ends db outcome after := by
  by_cases accepted
      : ∃ rehashed,
          rehash runtime draws.salt attempt.password user.passwordHash = .ok rehashed
          ∧ (db.writeUser user.id (successColumns now rehashed) now).AcceptsSession
              (loginSession runtime draws now attempt user)
  · obtain ⟨rehashed, hashed, accepted⟩ := accepted
    refine ⟨_, _, .succeeded reaches unlocked verified hashed accepted, ?_⟩
    refine attemptLogin_verifies reaches unlocked ?_
    rw [verified]
    exact completeLogin_ends hashed accepted
  · have rejected := fun rehashed hashed accepts => accepted ⟨rehashed, hashed, accepts⟩
    obtain ⟨error, raises⟩ := completeLogin_raises rejected
    refine ⟨.error error, db, .raised reaches unlocked verified rejected, ?_⟩
    refine attemptLogin_verifies reaches unlocked ?_
    rw [verified]
    exact raises

/-- An attempt that reaches an account is refused for a lock, or its password decides. -/
theorem attemptLogin_reached_cases {user : User} (reaches : Reaches runtime attempt db user)
    : ∃ outcome after,
        AttemptEnds runtime draws now attempt db outcome after
        ∧ (attemptLogin runtime draws now attempt).Ends db outcome after := by
  cases ahead : user.lockedUntil.filter (fun untilTime => untilTime > now) with
  | some untilTime =>
      obtain ⟨lock, later⟩ := Option.filter_eq_some_iff.mp ahead
      refine ⟨_, _, .locked reaches lock (by simpa using later), ?_⟩
      refine Action.Ends.selected reaches.found ?_
      simp only [reaches.active, ahead]
      exact Action.Ends.pure _
  | none =>
      have unlocked : Unlocked now user := unlocked_iff.mpr ahead
      cases verified : verifyPassword runtime attempt.password user.passwordHash with
      | false =>
          refine ⟨_, _, .failed reaches unlocked verified, ?_⟩
          refine attemptLogin_verifies reaches unlocked ?_
          rw [verified]
          exact recordFailure_ends user
      | true => exact attemptLogin_verified_cases reaches unlocked verified

/-- An attempt for an email that no Postgres text can hold raises in its query. -/
theorem attemptLogin_unsendable (unstorable : ¬ Storable (normalizeEmail runtime attempt.email))
    : (attemptLogin runtime draws now attempt).Ends db (.error (.dataError "users")) db := by
  have answered
      : (Action.select fun db => db.userByEmail (normalizeEmail runtime attempt.email)).Ends db
          (db.userByEmail (normalizeEmail runtime attempt.email)) db :=
    Action.Ends.select _
  rw [Database.userByEmail, if_neg unstorable] at answered
  exact Action.Ends.raise answered

/-- An attempt ends in one of the listed ways. -/
theorem attemptLogin_cases (runtime : Runtime) (draws : Draws) (now : Instant)
    (attempt : LoginAttempt) (db : Database)
    : ∃ outcome after,
        AttemptEnds runtime draws now attempt db outcome after
        ∧ (attemptLogin runtime draws now attempt).Ends db outcome after := by
  by_cases storable : Storable (normalizeEmail runtime attempt.email)
  · have found : db.userByEmail (normalizeEmail runtime attempt.email) = .ok _ := if_pos storable
    cases stored : findBy User.email (normalizeEmail runtime attempt.email) db.users with
    | none =>
        rw [stored] at found
        refine ⟨_, _, .unknown found, Action.Ends.selected found ?_⟩
        exact Action.Ends.computed rfl (Action.Ends.pure _)
    | some user =>
        rw [stored] at found
        cases active : user.isActive with
        | false =>
            refine ⟨_, _, .inactive found active, Action.Ends.selected found ?_⟩
            simp only [active]
            exact Action.Ends.pure _
        | true => exact attemptLogin_reached_cases ⟨found, active⟩
  · exact ⟨_, _, .unsendable storable, attemptLogin_unsendable storable⟩

/-- On the active account that it reaches, an attempt is refused for a lock, counts a failure,
succeeds, or raises after the password was verified.
-/
theorem AttemptEnds.reached {user : User} {outcome : Except Raised LoginResult}
    {after : Database} (ways : AttemptEnds runtime draws now attempt db outcome after)
    (reaches : Reaches runtime attempt db user)
    : (∃ untilTime,
        user.lockedUntil = some untilTime
        ∧ now < untilTime
        ∧ outcome = .ok (.locked untilTime)
        ∧ after = db)
      ∨ (Unlocked now user
        ∧ verifyPassword runtime attempt.password user.passwordHash = false
        ∧ outcome = .ok .invalid
        ∧ after = db.writeUser user.id (failureColumns now user) now)
      ∨ (Unlocked now user
        ∧ verifyPassword runtime attempt.password user.passwordHash = true
        ∧ ∃ rehashed accepted,
            rehash runtime draws.salt attempt.password user.passwordHash = .ok rehashed
            ∧ outcome
              = .ok
                (.success ((successColumns now rehashed).write now user) draws.token
                  (loginSession runtime draws now attempt user))
            ∧ after
              = (db.writeUser user.id (successColumns now rehashed) now).withSession
                  (loginSession runtime draws now attempt user) accepted)
      ∨ (Unlocked now user
        ∧ verifyPassword runtime attempt.password user.passwordHash = true
        ∧ (∀ rehashed,
            rehash runtime draws.salt attempt.password user.passwordHash = .ok rehashed
            → ¬ (db.writeUser user.id (successColumns now rehashed) now).AcceptsSession
                  (loginSession runtime draws now attempt user))
        ∧ ∃ error, outcome = .error error ∧ after = db) := by
  cases ways with
  | unsendable unstorable =>
      exact absurd (Database.userByEmail_answered reaches.found).1 unstorable
  | unknown unknown => cases reaches.found.symm.trans unknown
  | inactive found inactive =>
      cases reaches.found.symm.trans found
      cases reaches.active.symm.trans inactive
  | locked again lock ahead =>
      cases reaches.found.symm.trans again.found
      exact .inl ⟨_, lock, ahead, rfl, rfl⟩
  | failed again unlocked wrong =>
      cases reaches.found.symm.trans again.found
      exact .inr (.inl ⟨unlocked, wrong, rfl, rfl⟩)
  | succeeded again unlocked verified hashed accepted =>
      cases reaches.found.symm.trans again.found
      exact .inr (.inr (.inl ⟨unlocked, verified, _, accepted, hashed, rfl, rfl⟩))
  | raised again unlocked verified rejected =>
      cases reaches.found.symm.trans again.found
      exact .inr (.inr (.inr ⟨unlocked, verified, rejected, _, rfl, rfl⟩))

end Attempts

end SpecterCloud.Auth
