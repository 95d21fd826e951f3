import SpecterCloud.Foundations.LostUpdates
import SpecterCloud.Lockout.PolicyRefinement

/-! Concurrent calls of `attempt_login` on one account, with wrong passwords. The failure count
is read by a SELECT and written back by an UPDATE, so it is right in the races whose SELECTs do
not overlap with another attempt.
-/

namespace SpecterCloud.Auth

open SpecterCloud.Foundations
open SpecterCloud.Models
open SpecterCloud.Core

/-- What `attempt_login` writes to the account once it has read it, if anything. A success sends
its session with the columns, and writes them when the session is accepted.
-/
def accountUpdate (runtime : Runtime) (call : LoginCall) (read : User)
    : Option (User → User) :=
  if !read.isActive then
    none
  else
    match read.lockedUntil.filter (fun untilTime => untilTime > call.now) with
    | some _ => none
    | none =>
        if !verifyPassword runtime call.attempt.password read.passwordHash then
          some ((failureColumns call.now read).write call.now)
        else
          match rehash runtime call.draws.salt call.attempt.password read.passwordHash with
          | .error _ => none
          | .ok rehashed => some ((successColumns call.now rehashed).write call.now)

/-- Races of calls on one account, each in a session of its own. -/
def LoginRaces {n : Nat} (runtime : Runtime) (calls : Fin n → LoginCall) (account : User)
    (history : List (RaceEvent (Fin n))) (race : Race (Fin n) User)
    : Prop :=
  Races (fun i => accountUpdate runtime (calls i)) account history race

/-- The account's row counts so many failures: below the threshold by its number, from there on
by a lock for the lockout duration.
-/
def FailuresCounted (start : Instant) (n : Nat) (row : User) : Prop :=
  (n < lockoutThreshold → row.failedLoginCount = n)
  ∧ (lockoutThreshold ≤ n
      → ∃ untilTime,
          row.lockedUntil = some untilTime
          ∧ start + minutes lockoutDurationMinutes ≤ untilTime)

section Alone

variable {runtime : Runtime} {db : Database} {user : User} {call : LoginCall}

/-- An attempt that reaches its password check. -/
theorem accountUpdate_unlocked (active : user.isActive = true)
    (unlocked : Unlocked call.now user)
    : accountUpdate runtime call user
      = if !verifyPassword runtime call.attempt.password user.passwordHash then
          some ((failureColumns call.now user).write call.now)
        else
          match rehash runtime call.draws.salt call.attempt.password user.passwordHash with
          | .error _ => none
          | .ok rehashed => some ((successColumns call.now rehashed).write call.now) := by
  simp only [accountUpdate, active, unlocked_iff.mp unlocked]
  rfl

/-- An attempt under a lock writes nothing. -/
theorem accountUpdate_locked {untilTime : Instant} (lock : user.lockedUntil = some untilTime)
    (ahead : call.now < untilTime)
    : accountUpdate runtime call user = none := by
  have filtered
      : user.lockedUntil.filter (fun untilTime => untilTime > call.now) = some untilTime := by
    rw [Option.filter_eq_some_iff]
    exact ⟨lock, by simpa using ahead⟩
  simp [accountUpdate, filtered]

/-- An attempt that runs alone and is answered does to its account what its steps do in a race
where it is alone.
-/
theorem serveLogin_effect
    (found : db.userByEmail (normalizeEmail runtime call.attempt.email) = .ok (some user))
    {result : LoginResult} (answered : (serveLogin runtime db call).1 = .ok result)
    : (serveLogin runtime db call).2.userByEmail (normalizeEmail runtime call.attempt.email)
      = .ok (some (effect (accountUpdate runtime) call user)) := by
  obtain ⟨outcome, after, ways, served⟩ := serveLogin_cases runtime db call
  rw [served] at answered ⊢
  rw [effect, published]
  have storable := (Database.userByEmail_answered found).1
  cases ways with
  | unsendable unstorable => exact absurd storable unstorable
  | unknown unknown => cases found.symm.trans unknown
  | inactive foundAgain inactive =>
      cases found.symm.trans foundAgain
      simpa [accountUpdate, inactive] using found
  | locked reaches lock ahead =>
      cases found.symm.trans reaches.found
      rw [accountUpdate_locked lock ahead]
      exact found
  | failed reaches unlocked wrong =>
      cases found.symm.trans reaches.found
      rw [accountUpdate_unlocked reaches.active unlocked, wrong,
        Database.writeUser_userByEmail, found]
      simp [Except.map]
  | succeeded reaches unlocked verified hashed accepted =>
      cases found.symm.trans reaches.found
      rw [accountUpdate_unlocked reaches.active unlocked, verified, hashed]
      show (db.writeUser _ _ _).userByEmail _ = _
      rw [Database.writeUser_userByEmail, found]
      simp [Except.map]
  | raised => cases answered

end Alone

-----------------------------------------------------------------------------------------
-- Wrong passwords
-----------------------------------------------------------------------------------------

section Guesses

variable {runtime : Runtime} {account row : User} {start : Instant} {call : LoginCall}
  {k : Nat}

/-- A wrong password within the lockout duration from the start. -/
structure Guess (runtime : Runtime) (account : User) (start : Instant) (call : LoginCall)
    : Prop where
  wrong : verifyPassword runtime call.attempt.password account.passwordHash = false
  begun : start ≤ call.now
  soon : call.now < start + minutes lockoutDurationMinutes

/-- The account as wrong passwords find it before the threshold. -/
structure Guessable (account : User) (start : Instant) (row : User) : Prop where
  active : row.isActive = true
  passwordHash : row.passwordHash = account.passwordHash
  unlocked : Unlocked start row

theorem Unlocked.mono (unlocked : Unlocked start row) {now : Instant} (later : start ≤ now)
    : Unlocked now row :=
  fun untilTime lock => Int.le_trans (unlocked untilTime lock) later

/-- A wrong password on an unlocked account writes the failure columns. -/
theorem Guess.update (guess : Guess runtime account start call)
    (guessable : Guessable account start row)
    : accountUpdate runtime call row
      = some ((failureColumns call.now row).write call.now) := by
  rw [accountUpdate_unlocked guessable.active (guessable.unlocked.mono guess.begun),
    guessable.passwordHash, guess.wrong]
  rfl

/-- Below the threshold the failure columns leave the account unlocked and one up. -/
theorem failureColumns_below {read latest : User} {now : Instant}
    (below : read.failedLoginCount + 1 < lockoutThreshold)
    (guessable : Guessable account start latest)
    : Guessable account start ((failureColumns now read).write now latest)
      ∧ ((failureColumns now read).write now latest).failedLoginCount
        = read.failedLoginCount + 1 := by
  rw [failureColumns, if_neg (Int.not_le.mpr below)]
  exact ⟨⟨guessable.active, guessable.passwordHash, guessable.unlocked⟩, rfl⟩

/-- The account after so many wrong passwords, one after another. -/
inductive GuessedTimes (account : User) (start : Instant) (k : Nat) (row : User) : Prop
  | counting (guessable : Guessable account start row) (below : k < lockoutThreshold)
      (counted : row.failedLoginCount = k)
  | locked {untilTime : Instant} (reached : lockoutThreshold ≤ k)
      (lock : row.lockedUntil = some untilTime)
      (ahead : start + minutes lockoutDurationMinutes ≤ untilTime)

theorem GuessedTimes.counted (guessed : GuessedTimes account start k row)
    : FailuresCounted start k row := by
  cases guessed with
  | counting guessable below counted =>
      exact ⟨fun _ => counted, fun reached => absurd below (Int.not_lt.mpr reached)⟩
  | locked reached lock ahead =>
      exact ⟨fun below => absurd below (Int.not_lt.mpr reached), fun _ => ⟨_, lock, ahead⟩⟩

/-- One more wrong password, alone. -/
theorem GuessedTimes.step (guessed : GuessedTimes account start k row)
    (guess : Guess runtime account start call)
    : GuessedTimes account start (k + 1) (effect (accountUpdate runtime) call row) := by
  rw [effect, published]
  cases guessed with
  | counting guessable below counted =>
      rw [guess.update guessable]
      by_cases reached : lockoutThreshold ≤ row.failedLoginCount + 1
      · have locks : lockoutThreshold ≤ ((k + 1 : Nat) : Int) := by
          rw [counted] at reached
          exact_mod_cast reached
        refine .locked locks ?_ (Int.add_le_add_right guess.begun _)
        rw [failureColumns, if_pos reached]
        rfl
      · have still := Int.not_le.mp reached
        obtain ⟨kept, more⟩ := failureColumns_below still guessable
        rw [counted] at more still
        exact .counting kept (by exact_mod_cast still) (by exact_mod_cast more)
  | locked reached lock ahead =>
      rw [accountUpdate_locked lock (Int.lt_of_lt_of_le guess.soon ahead)]
      refine .locked ?_ lock ahead
      push_cast
      omega

variable {n : Nat} {calls : Fin n → LoginCall} {history : List (RaceEvent (Fin n))}
  {race : Race (Fin n) User}

/-- The attempts of a serial race count one after another, by induction on their order. -/
theorem GuessedTimes.serial (guesses : ∀ i, Guess runtime account start (calls i))
    (fresh : GuessedTimes account start 0 account) (order : List (Fin n))
    : GuessedTimes account start order.length
        (order.foldr (effect (fun i => accountUpdate runtime (calls i))) account) := by
  induction order with
  | nil => exact fresh
  | cons i order ih => exact ih.step (guesses i)

/-- With fewer attempts than the threshold, each increments the count that it has read. -/
theorem guesses_increment (guesses : ∀ i, Guess runtime account start (calls i))
    (few : n < lockoutThreshold)
    : Increments (fun i => accountUpdate runtime (calls i)) (Guessable account start)
        User.failedLoginCount := by
  intro i read guessable small
  rw [Fintype.card_fin] at small
  have below : read.failedLoginCount + 1 < lockoutThreshold := Int.lt_of_le_of_lt small few
  exact ⟨_, (guesses i).update guessable, fun latest kept => failureColumns_below below kept⟩

end Guesses

/-- For every number of attempts with wrong passwords on an active, unlocked account without
failures: in every race without overlaps the row counts every attempt that has ended, in every
state reached. When all have ended and they are fewer than the threshold, it counts all of them
in no other race.
-/
theorem concurrent_failures_counted (runtime : Runtime) (n : Nat) (calls : Fin n → LoginCall)
    (account : User) (start : Instant) (active : account.isActive = true)
    (uncounted : account.failedLoginCount = 0) (unlocked : Unlocked start account)
    (guesses : ∀ i, Guess runtime account start (calls i)) (history : List (RaceEvent (Fin n)))
    (race : Race (Fin n) User) (ran : LoginRaces runtime calls account history race)
    : (Apart history → FailuresCounted start race.endedCount race.row)
      ∧ ((∀ i, race.ended i = true)
          → race.endedCount = n
            ∧ (n < lockoutThreshold → (FailuresCounted start n race.row ↔ Apart history))) := by
  have guessable : Guessable account start account := ⟨active, rfl, unlocked⟩
  have counts : Apart history → FailuresCounted start race.endedCount race.row := by
    intro apart
    obtain ⟨order, serial⟩ := Races.serial ran apart
    have fresh : GuessedTimes account start 0 account := .counting guessable (by decide) uncounted
    have guessed := fresh.serial guesses order
    rw [← serial.row, serial.length] at guessed
    exact guessed.counted
  refine ⟨counts, fun ended => ?_⟩
  have everyone : race.endedCount = n := by
    rw [Race.endedCount_all ended, Fintype.card_fin]
  refine ⟨everyone, fun few => ⟨fun counted => ?_, fun apart => ?_⟩⟩
  · by_contra overlapped
    have lost := Races.lost_update ran (guesses_increment guesses few) guessable uncounted
      overlapped ended
    rw [counted.1 few, Fintype.card_fin] at lost
    exact Int.lt_irrefl _ lost
  · have counted := counts apart
    rwa [everyone] at counted

/-- A wrong password for the sample user, as every attempt of a race sends it. -/
theorem sampleGuess_guess : Guess sampleRuntime sampleUser 0 sampleGuess :=
  ⟨by decide, by decide, by decide⟩

/-- Two wrong passwords, the second sent after the first has ended, count twice. -/
theorem successive_failures_counted
    : ∃ history race,
        LoginRaces sampleRuntime (fun _ : Fin 2 => sampleGuess) sampleUser history race
        ∧ (∀ i, race.ended i = true)
        ∧ FailuresCounted 0 2 race.row := by
  have checked
      : (Race.play (fun _ : Fin 2 => accountUpdate sampleRuntime sampleGuess) sampleUser
          [1, 1, 1, 1, 0, 0, 0, 0]).any
          (fun ran => decide (Apart ran.1 ∧ ∀ i, ran.2.ended i = true))
        = true := by
    decide
  obtain ⟨history, race, ran, found⟩ := Race.play_finds checked
  obtain ⟨apart, ended⟩ := of_decide_eq_true found
  have counted := concurrent_failures_counted sampleRuntime 2 (fun _ => sampleGuess) sampleUser 0
    rfl rfl nofun (fun _ => sampleGuess_guess) history race ran
  exact ⟨history, race, ran, ended, ((counted.2 ended).2 (by decide)).mpr apart⟩

/-- Two wrong passwords, both SELECTs before either UPDATE, count once. -/
theorem overlapping_failures_lost
    : ∃ history race,
        LoginRaces sampleRuntime (fun _ : Fin 2 => sampleGuess) sampleUser history race
        ∧ (∀ i, race.ended i = true)
        ∧ sampleUser.isActive = true
        ∧ sampleUser.failedLoginCount = 0
        ∧ Unlocked 0 sampleUser
        ∧ Guess sampleRuntime sampleUser 0 sampleGuess
        ∧ ¬ FailuresCounted 0 2 race.row := by
  have checked
      : (Race.play (fun _ : Fin 2 => accountUpdate sampleRuntime sampleGuess) sampleUser
          [1, 1, 0, 0, 1, 0, 1, 0]).any
          (fun ran => decide ((∀ i, ran.2.ended i = true) ∧ ran.2.row.failedLoginCount = 1))
        = true := by
    decide
  obtain ⟨history, race, ran, found⟩ := Race.play_finds checked
  obtain ⟨ended, once⟩ := of_decide_eq_true found
  refine ⟨history, race, ran, ended, rfl, rfl, nofun, sampleGuess_guess, fun counted => ?_⟩
  have twice := counted.1 (by decide)
  rw [once] at twice
  cases twice

end SpecterCloud.Auth
