import Mathlib.Data.Set.Insert
import SpecterCloud.Auth.Login
import SpecterCloud.Foundations.ActionSteps
import SpecterCloud.Foundations.RefusedSteps

/-! A login attempt is atomic and touches its own account only, also where the database refuses
one of its calls.
-/

namespace SpecterCloud.Auth

open SpecterCloud.Foundations
open SpecterCloud.Models
open SpecterCloud.Core

/-- The steps of an attempt that runs alone, so that its statements need no locks. -/
abbrev LoginSteps := Transaction Database Empty Raised LoginResult

def loginStatement (run : Database → Except Raised Database)
    : Statement Database Empty Raised where
  locks := []
  run

section Steps

variable (runtime : Runtime) (draws : Draws) (now : Instant) (attempt : LoginAttempt)

/-- The success path of `attempt_login`, as the steps of a transaction. -/
def completeSteps (user : User) : LoginSteps :=
  match rehash runtime draws.salt attempt.password user.passwordHash with
  | .error error => .leave (.error error)
  | .ok rehashed =>
      let columns := successColumns now rehashed
      let sess := loginSession runtime draws now attempt user
      .execute (loginStatement (Database.updateUser user.id columns now))
        (.execute (loginStatement (Database.insertSession sess))
          (.commit (.success (columns.write now user) draws.token sess)))

/-- `attempt_login`, as the steps of a transaction. -/
def loginSteps : LoginSteps :=
  .select fun db =>
    match db.userByEmail (normalizeEmail runtime attempt.email) with
    | .error error => .leave (.error error)
    | .ok none => .leave (.ok .invalid)
    | .ok (some user) =>
        if !user.isActive then
          .leave (.ok .invalid)
        else
          match user.lockedUntil.filter (fun untilTime => untilTime > now) with
          | some untilTime => .leave (.ok (.locked untilTime))
          | none =>
              if !verifyPassword runtime attempt.password user.passwordHash then
                let columns := failureColumns now user
                .execute (loginStatement (Database.updateUser user.id columns now))
                  (.commit .invalid)
              else
                completeSteps runtime draws now attempt user

variable {runtime draws now attempt}

/-- The success path takes its steps. -/
theorem completeLogin_takes (user : User)
    : (completeLogin runtime draws now attempt user).TakesSteps
        (completeSteps runtime draws now attempt user) := by
  intro view committed
  rw [completeLogin, completeSteps, EStateM.run_bind, Action.ofExcept_run]
  cases rehash runtime draws.salt attempt.password user.passwordHash with
  | error error => rfl
  | ok rehashed =>
      simp only [EStateM.run_bind, Action.add_run, createSession_run, List.nil_append,
        List.cons_append, runAll_cons, Transaction.alone, loginStatement]
      cases Database.updateUser user.id (successColumns now rehashed) now view with
      | error error => rfl
      | ok middle =>
          simp only [Except.bind, runAll_cons, loginSession]
          cases Database.insertSession _ middle <;> rfl

/-- An attempt takes its steps. -/
theorem attemptLogin_takes
    : (attemptLogin runtime draws now attempt).TakesSteps
        (loginSteps runtime draws now attempt) := by
  unfold attemptLogin loginSteps
  refine Action.TakesSteps.selected ?_ ?_
  · intro db answer found
    rw [found]
    cases answer with
    | none =>
        refine Action.TakesSteps.computed ?_ ?_
        · intro _ _
          exact Action.TakesSteps.pure _
        · intro error raised
          cases raised
    | some user =>
        refine Action.TakesSteps.choice ?_ ?_
        · intro _
          exact Action.TakesSteps.pure _
        · intro _
          cases user.lockedUntil.filter (fun untilTime => untilTime > now) with
          | some untilTime => exact Action.TakesSteps.pure _
          | none =>
              refine Action.TakesSteps.choice ?_ ?_
              · intro _
                exact Action.TakesSteps.committedOne (loginStatement _) _
              · intro _
                exact completeLogin_takes user
  · intro db error found
    rw [found]

end Steps

-----------------------------------------------------------------------------------------
-- What an attempt may change
-----------------------------------------------------------------------------------------

/-- `after` has the users of `db`, and only the row under the id went through a change. -/
def ChangesUser (id : UUID) (change : User → User → Prop) (db after : Database) : Prop :=
  List.Forall₂ (fun row next => if row.id = id then change row next else next = row) db.users
    after.users

/-- The counter, the lock and `updated_at` are all that can differ. -/
def CountersWritten (row next : User) : Prop :=
  ∃ failedLoginCount lockedUntil updatedAt,
    next = { row with failedLoginCount, lockedUntil, updatedAt }

/-- The tables that no attempt writes. -/
structure SameElsewhere (db after : Database) : Prop where
  access : after.toAccessTables = db.toAccessTables
  auditLog : after.auditLog = db.auditLog

/-- A hash that `hash_password` returned for the password in one of the releases, whose cost
parameters may differ.
-/
def HashOf (releases : List Runtime) (plain hashed : String) : Prop :=
  ∃ release ∈ releases, ∃ salt, hashPassword release salt plain = .ok hashed

/-- Of the passwords, `verify_password` accepts for a hash of one just that one. No hash that fits
its column tells all texts apart, so the passwords are a set of which that is true.
-/
structure ExactHashes (runtime : Runtime) (releases : List Runtime) (passwords : Set String)
    : Prop where
  current : runtime ∈ releases
  verifies
    : ∀ plain ∈ passwords, ∀ hashed, HashOf releases plain hashed
      → ∀ tried ∈ passwords, (verifyPassword runtime tried hashed = true ↔ tried = plain)

section Effects

variable (runtime : Runtime) (releases : List Runtime) (passwords : Set String) (now : Instant)
  (attempt : LoginAttempt)

/-- The new hash accepts just the password of the attempt, which the old one accepts too, and
no other if it is a hash of one of the passwords.
-/
structure Rehashes (hashed rehashed : String) : Prop where
  accepts
    : ∀ tried ∈ passwords,
        (verifyPassword runtime tried rehashed = true ↔ tried = attempt.password)
  accepted : verifyPassword runtime attempt.password hashed = true
  samePasswords
    : (∃ plain ∈ passwords, HashOf releases plain hashed)
      → ∀ tried ∈ passwords,
          verifyPassword runtime tried rehashed = verifyPassword runtime tried hashed

/-- What a success writes to the account. -/
def LoginWritten (row next : User) : Prop :=
  ∃ passwordHash,
    next
      = { row with
          passwordHash
          lastLoginAt := some now
          failedLoginCount := 0
          lockedUntil := none
          updatedAt := now }
    ∧ (passwordHash = row.passwordHash
      ∨ Rehashes runtime releases passwords attempt row.passwordHash passwordHash)

/-- What an attempt that ends so has committed. -/
def LoginEffect (db after : Database) : Except Raised LoginResult → Prop
  | .error _ => after = db
  | .ok (.locked _) => after = db
  | .ok .invalid =>
      ((∀ user, ¬ Reaches runtime attempt db user) ∧ after = db)
      ∨ ∃ user,
          Reaches runtime attempt db user
          ∧ verifyPassword runtime attempt.password user.passwordHash = false
          ∧ ChangesUser user.id CountersWritten db after
          ∧ after.sessions = db.sessions
  | .ok (.success _ rawToken sess) =>
      ∃ user,
        Reaches runtime attempt db user
        ∧ ChangesUser user.id (LoginWritten runtime releases passwords now attempt) db after
        ∧ after.sessions = db.sessions ++ [sess]
        ∧ sess.userId = user.id
        ∧ sess.tokenHash = hashToken runtime rawToken

end Effects

section Ends

variable {runtime : Runtime} {releases : List Runtime} {passwords : Set String} {draws : Draws}
  {now : Instant} {attempt : LoginAttempt} {db after : Database}
  {outcome : Except Raised LoginResult}

/-- Columns that are written to a user change the row under its id alone. -/
theorem writeUser_changes {id : UUID} {columns : UserColumns} {change : User → User → Prop}
    (changes : ∀ row ∈ db.users, row.id = id → change row (columns.write now row))
    : ChangesUser id change db (db.writeUser id columns now) := by
  have related
      : List.Forall₂
          (fun row next => if decide (row.id = id) = true then change row next else next = row)
          db.users (rewriteWhere (fun row => row.id = id) (columns.write now) db.users) :=
    forall₂_rewriteWhere (fun row stored hit => changes row stored (of_decide_eq_true hit))
  simp only [decide_eq_true_eq] at related
  exact related

/-- A failure writes the counters alone. -/
theorem failureColumns_counters (now : Instant) (user row : User)
    : CountersWritten row ((failureColumns now user).write now row) := by
  unfold failureColumns
  dsimp only
  split
  · exact ⟨0, some (now + minutes lockoutDurationMinutes), now, rfl⟩
  · exact ⟨user.failedLoginCount + 1, row.lockedUntil, now, rfl⟩

/-- The hash that replaces one which accepts the password accepts the same passwords. -/
theorem ExactHashes.rehashes (exact_ : ExactHashes runtime releases passwords)
    (known : attempt.password ∈ passwords) {hashed rehashed : String}
    (verified : verifyPassword runtime attempt.password hashed = true)
    (fresh : hashPassword runtime draws.salt attempt.password = .ok rehashed)
    : Rehashes runtime releases passwords attempt hashed rehashed := by
  have accepts
      : ∀ tried ∈ passwords,
          (verifyPassword runtime tried rehashed = true ↔ tried = attempt.password) :=
    exact_.verifies _ known rehashed ⟨runtime, exact_.current, draws.salt, fresh⟩
  refine ⟨accepts, verified, ?_⟩
  rintro ⟨plain, member, made⟩ tried among
  have old := exact_.verifies plain member hashed made
  have same : attempt.password = plain := (old _ known).mp verified
  rw [Bool.eq_iff_iff, accepts tried among, old tried among, same]

/-- A success writes what it should to the account. -/
theorem successColumns_written (exact_ : ExactHashes runtime releases passwords)
    (known : attempt.password ∈ passwords) {user : User} {rehashed : Option String}
    (verified : verifyPassword runtime attempt.password user.passwordHash = true)
    (hashed : rehash runtime draws.salt attempt.password user.passwordHash = .ok rehashed)
    : LoginWritten runtime releases passwords now attempt user
        ((successColumns now rehashed).write now user) := by
  refine ⟨rehashed.getD user.passwordHash, rfl, ?_⟩
  cases rehashed with
  | none => exact .inl rfl
  | some fresh => exact .inr (exact_.rehashes known verified (rehash_hashes hashed))

/-- Every ending of an attempt has its effect. -/
theorem AttemptEnds.effect (exact_ : ExactHashes runtime releases passwords)
    (known : attempt.password ∈ passwords)
    (ends : AttemptEnds runtime draws now attempt db outcome after)
    : LoginEffect runtime releases passwords now attempt db after outcome := by
  cases ends with
  | unsendable _ => rfl
  | locked _ _ _ => rfl
  | raised _ _ _ _ => rfl
  | unknown unknown =>
      refine .inl ⟨?_, rfl⟩
      intro user reaches
      cases unknown.symm.trans reaches.found
  | inactive found inactive =>
      refine .inl ⟨?_, rfl⟩
      intro user reaches
      cases found.symm.trans reaches.found
      cases inactive.symm.trans reaches.active
  | @failed user reaches _ wrong =>
      refine .inr ⟨user, reaches, wrong, ?_, rfl⟩
      exact writeUser_changes (fun row _ _ => failureColumns_counters now user row)
  | @succeeded user rehashed reaches _ verified hashed accepted =>
      refine ⟨user, reaches, ?_, rfl, rfl, rfl⟩
      have stored := (findBy_sound (Database.userByEmail_answered reaches.found).2).1
      refine writeUser_changes ?_
      intro row member same
      obtain rfl := eq_of_key_eq db.userIds member stored same
      exact successColumns_written exact_ known verified hashed

/-- No ending touches another table. -/
theorem AttemptEnds.sameElsewhere (ends : AttemptEnds runtime draws now attempt db outcome after)
    : SameElsewhere db after := by
  cases ends <;> exact ⟨rfl, rfl⟩

/-- An attempt whose calls can be refused ends as it does without, or raises and changes nothing.
-/
theorem loginSteps_mayEnd
    (ends : (loginSteps runtime draws now attempt).MayEnd db db outcome after)
    : AttemptEnds runtime draws now attempt db outcome after
      ∨ (∃ error, outcome = .error error) ∧ after = db := by
  obtain alone | raised := ends.cases
  · obtain ⟨answer, reached, ways, performs⟩ :=
      attemptLogin_cases runtime draws now attempt db
    have same := (attemptLogin_takes.perform db).symm.trans performs.perform
    cases alone.symm.trans same
    exact .inl ways
  · exact .inr raised

end Ends

/-- For every database and every call: an attempt that is locked, that is invalid for want of an
active account, or that raises changes nothing; one with a wrong password writes the counters of
its account alone; and one that succeeds writes its columns to that account and adds the one
session. This holds of the call, and of it when any of its steps can be refused.
-/
theorem login_touches_own_account (runtime : Runtime) (releases : List Runtime)
    (passwords : Set String) (exact_ : ExactHashes runtime releases passwords) (draws : Draws)
    (now : Instant) (attempt : LoginAttempt) (known : attempt.password ∈ passwords)
    (db : Database)
    : let ended := (attemptLogin runtime draws now attempt).perform db
      (LoginEffect runtime releases passwords now attempt db ended.2 ended.1
        ∧ SameElsewhere db ended.2)
      ∧ ∀ outcome after,
          (loginSteps runtime draws now attempt).MayEnd db db outcome after
          → LoginEffect runtime releases passwords now attempt db after outcome
            ∧ SameElsewhere db after := by
  have refused (outcome : Except Raised LoginResult) (after : Database)
      (ends : (loginSteps runtime draws now attempt).MayEnd db db outcome after)
      : LoginEffect runtime releases passwords now attempt db after outcome
        ∧ SameElsewhere db after := by
    obtain ways | ⟨⟨error, rfl⟩, rfl⟩ := loginSteps_mayEnd ends
    · exact ⟨ways.effect exact_ known, ways.sameElsewhere⟩
    · exact ⟨rfl, rfl, rfl⟩
  refine ⟨?_, refused⟩
  rw [attemptLogin_takes.perform db]
  exact refused _ _ (.alone _ _ _)

/-- The argon2id hash of `password` with the salt `somesalt` and less memory. -/
def earlierPasswordHash : String :=
  "$argon2id$v=19$m=256,t=2,p=1$c29tZXNhbHQ$nf65EOgLrQMR/uIPnA4rEsF5h7TKyQwu9U1bMCHGi/4"

/-- The argon2id hash of `differentpassword` with the salt `somesalt`. -/
def differentPasswordHash : String :=
  "$argon2id$v=19$m=65536,t=2,p=1$c29tZXNhbHQ$C4TWUs9rDEvq7w3+J4umqA32aWKB1+DSiRuBfYxFj94"

/-- A runtime whose `hash_password` returns the given hash of `password`. -/
def releaseRuntime (passwordHash : String) (fits : FitsString 128 passwordHash) : Runtime where
  lower := sampleRuntime.lower
  parseUuid := sampleRuntime.parseUuid
  sha256Hex := sampleRuntime.sha256Hex
  argon2Hash := fun _ plain =>
    if plain = "password" then passwordHash else differentPasswordHash
  argon2Verify := fun hashed plain =>
    if hashed = differentPasswordHash then
      plain = "differentpassword"
    else
      (hashed = samplePasswordHash ∨ hashed = earlierPasswordHash) ∧ plain = "password"
  argon2NeedsRehash := fun hashed => hashed = earlierPasswordHash
  sha256Hex_fits := sampleRuntime.sha256Hex_fits
  argon2Hash_fits := by
    intro _ plain
    split
    · exact fits
    · decide

/-- The release that is run. -/
def presentRelease : Runtime := releaseRuntime samplePasswordHash (by decide)

/-- The release that hashed the stored password. -/
def earlierRelease : Runtime := releaseRuntime earlierPasswordHash (by decide)

/-- The hashes that the releases return for the two passwords. -/
theorem releaseRuntime_hashes {passwordHash : String} {fits : FitsString 128 passwordHash}
    {salt plain hashed : String}
    (made : hashPassword (releaseRuntime passwordHash fits) salt plain = .ok hashed)
    : hashed = if plain = "password" then passwordHash else differentPasswordHash :=
  hashPassword_eq made

/-- Both releases have exact hashes of the two passwords. -/
theorem releases_exact
    : ExactHashes presentRelease [presentRelease, earlierRelease]
        {"password", "differentpassword"} := by
  refine ⟨List.mem_cons_self, ?_⟩
  rintro plain among hashed ⟨release, released, salt, made⟩ tried triedAmong
  have hash
      : (hashed = samplePasswordHash ∨ hashed = earlierPasswordHash) ∧ plain = "password"
        ∨ hashed = differentPasswordHash ∧ plain = "differentpassword" := by
    obtain rfl | rfl : release = presentRelease ∨ release = earlierRelease := by
      simpa using released
    · obtain rfl | rfl := among
      · exact .inl ⟨.inl (releaseRuntime_hashes made), rfl⟩
      · exact .inr ⟨releaseRuntime_hashes made, rfl⟩
    · obtain rfl | rfl := among
      · exact .inl ⟨.inr (releaseRuntime_hashes made), rfl⟩
      · exact .inr ⟨releaseRuntime_hashes made, rfl⟩
  obtain ⟨rfl | rfl, rfl⟩ | ⟨rfl, rfl⟩ := hash
  all_goals
    obtain rfl | rfl := triedAmong
    all_goals decide

/-- The account with the hash of the earlier release. -/
def earlierDatabase : Database :=
  sampleDatabase.writeUser sampleUser.id { passwordHash := some earlierPasswordHash } 0

/-- A login with the right password replaces the earlier hash by one for the same password. -/
theorem earlierDatabase_rehashed
    : let attempt : LoginAttempt := { email := "admin@specter.example", password := "password" }
      let ended :=
        (attemptLogin presentRelease ⟨"a", 1, "somesalt"⟩ 0 attempt).perform earlierDatabase
      LoginEffect presentRelease [presentRelease, earlierRelease]
          {"password", "differentpassword"} 0 attempt earlierDatabase ended.2 ended.1
      ∧ SameElsewhere earlierDatabase ended.2 :=
  (login_touches_own_account presentRelease [presentRelease, earlierRelease]
    {"password", "differentpassword"} releases_exact ⟨"a", 1, "somesalt"⟩ 0
    { email := "admin@specter.example", password := "password" } (.inl rfl) earlierDatabase).1

end SpecterCloud.Auth
