import Mathlib.Algebra.Order.Group.Int
import SpecterCloud.Foundations.GuessBudgets
import SpecterCloud.Lockout.PolicyRefinement

/-! The lockout bounds guessing: an interval of so many lock durations without a success has at
most five wrong passwords for each of them, however the attempts are spread.
-/

namespace SpecterCloud.Auth

open SpecterCloud.Foundations
open SpecterCloud.Models
open SpecterCloud.Core

/-- Databases in which the account under an email can be. It starts without failures and lock;
after that come attempts for any email at any times, and changes that leave the two columns alone,
which only `attempt_login` writes.
-/
inductive ReachableAccount (runtime : Runtime) (email : String) : Database → Prop
  | created {db : Database} {user : User} (found : db.userByEmail email = .ok (some user))
      (uncounted : user.failedLoginCount = 0) (unlocked : user.lockedUntil = none)
      : ReachableAccount runtime email db
  | attempted {db : Database} (reachable : ReachableAccount runtime email db) (call : LoginCall)
      : ReachableAccount runtime email (serveLogin runtime db call).2
  | changed {db after : Database} {user changed : User}
      (reachable : ReachableAccount runtime email db)
      (found : db.userByEmail email = .ok (some user))
      (foundAfter : after.userByEmail email = .ok (some changed))
      (failedLoginCount : changed.failedLoginCount = user.failedLoginCount)
      (lockedUntil : changed.lockedUntil = user.lockedUntil)
      : ReachableAccount runtime email after

/-- The calls of a run, each with the database that it starts on. -/
def moments (runtime : Runtime) (db : Database) : List LoginCall → List (Database × LoginCall)
  | [] => []
  | call :: later => (db, call) :: moments runtime (serveLogin runtime db call).2 later

/-- The call comes to `verify_password` with the account's hash, which answers False. -/
def verifiesWrong (runtime : Runtime) (moment : Database × LoginCall) : Bool :=
  match moment.1.userByEmail (normalizeEmail runtime moment.2.attempt.email) with
  | .error _ => false
  | .ok none => false
  | .ok (some user) =>
      user.isActive
      && (user.lockedUntil.filter (fun untilTime => untilTime > moment.2.now)).isNone
      && !verifyPassword runtime moment.2.attempt.password user.passwordHash

def isSuccess : Except Raised LoginResult → Bool
  | .ok (.success _ _ _) => true
  | _ => false

/-- The call returns a `LoginSuccess`. -/
def succeeds (runtime : Runtime) (moment : Database × LoginCall) : Bool :=
  isSuccess (serveLogin runtime moment.1 moment.2).1

/-- The call comes in the half-open interval of `m` times 15 minutes. -/
def ComesWithin (start : Instant) (m : Nat) (moment : Database × LoginCall) : Prop :=
  start ≤ moment.2.now ∧ moment.2.now < start + m * minutes 15

instance (start : Instant) (m : Nat) : DecidablePred (ComesWithin start m) :=
  fun _ => inferInstanceAs (Decidable (_ ∧ _))

/-- The call as the lockout sees it. -/
def judgedMoment (runtime : Runtime) (moment : Database × LoginCall) : JudgedAttempt Instant where
  time := moment.2.now
  verdict :=
    if verifiesWrong runtime moment then
      .failed
    else if succeeds runtime moment then
      .succeeded
    else
      .ignored

/-- What the lockout reads of an account. -/
def lockState (user : User) : LockState Instant :=
  { failures := user.failedLoginCount.toNat, lockedUntil := user.lockedUntil }

/-- The account under the email counts fewer failures than lock. -/
structure CountsFailures (email : String) (db : Database) (user : User) : Prop where
  found : db.userByEmail email = .ok (some user)
  nonneg : 0 ≤ user.failedLoginCount
  below : user.failedLoginCount < lockoutThreshold

section Calls

variable {runtime : Runtime} {email : String} {db : Database} {user : User} {call : LoginCall}

/-- A call verifies a wrong password exactly when it reaches an unlocked account with one. -/
theorem verifiesWrong_iff
    : verifiesWrong runtime (db, call) = true
      ↔ ∃ user,
          Reaches runtime call.attempt db user
          ∧ Unlocked call.now user
          ∧ verifyPassword runtime call.attempt.password user.passwordHash = false := by
  unfold verifiesWrong
  constructor
  · intro wrong
    split at wrong
    · cases wrong
    · cases wrong
    · rename_i user found
      simp only [Bool.and_eq_true, Option.isNone_iff_eq_none, Bool.not_eq_true'] at wrong
      exact ⟨user, ⟨found, wrong.1.1⟩, unlocked_iff.mpr wrong.1.2, wrong.2⟩
  · rintro ⟨user, reaches, unlocked, wrong⟩
    simp only [reaches.found, reaches.active, unlocked_iff.mp unlocked, wrong]
    rfl

/-- The columns of a failure move the lockout on by one failure. -/
theorem failureColumns_step (counts : CountsFailures email db user) {now : Instant}
    (unlocked : Unlocked now user)
    : LockStep 5 (minutes 15) (lockState user) ⟨now, .failed⟩
        (lockState ((failureColumns now user).write now user)) := by
  have nonneg := counts.nonneg
  have below : user.failedLoginCount < 5 := counts.below
  by_cases full : user.failedLoginCount + 1 ≥ lockoutThreshold
  · have last : (lockState user).failures + 1 = 5 := by
      have reached : user.failedLoginCount + 1 ≥ 5 := full
      simp only [lockState]
      omega
    have columns
        : failureColumns now user
          = {
              failedLoginCount := some 0
              lockedUntil := some (some (now + minutes lockoutDurationMinutes))
            } :=
      if_pos full
    rw [columns]
    exact .locked unlocked last
  · have room : (lockState user).failures + 1 < 5 := by
      have free : ¬ user.failedLoginCount + 1 ≥ 5 := full
      simp only [lockState]
      omega
    have counted
        : lockState ((failureColumns now user).write now user)
          = { lockState user with failures := (lockState user).failures + 1 } := by
      have next : (user.failedLoginCount + 1).toNat = user.failedLoginCount.toNat + 1 := by omega
      have columns
          : failureColumns now user = { failedLoginCount := some (user.failedLoginCount + 1) } :=
        if_neg full
      simp [columns, lockState, UserColumns.write, next]
    rw [counted]
    exact .failed unlocked room

/-- After a failure the account still counts fewer failures than lock. -/
theorem failureColumns_counts (counts : CountsFailures email db user) (now : Instant)
    : 0 ≤ ((failureColumns now user).write now user).failedLoginCount
      ∧ ((failureColumns now user).write now user).failedLoginCount < lockoutThreshold := by
  have nonneg := counts.nonneg
  by_cases full : user.failedLoginCount + 1 ≥ lockoutThreshold
  · have columns : (failureColumns now user).failedLoginCount = some 0 :=
      congrArg UserColumns.failedLoginCount (if_pos full)
    simp [UserColumns.write, columns, lockoutThreshold]
  · have columns : (failureColumns now user).failedLoginCount = some (user.failedLoginCount + 1) :=
      congrArg UserColumns.failedLoginCount (if_neg full)
    simp only [UserColumns.write, columns, Option.getD_some]
    omega

/-- Columns written to an account leave this one counting, also where it is another. -/
theorem CountsFailures.write (counts : CountsFailures email db user) {other : User}
    {otherEmail : String} (found : db.userByEmail otherEmail = .ok (some other))
    {columns : UserColumns} {now : Instant}
    (counted
      : other = user
        → 0 ≤ (columns.write now other).failedLoginCount
          ∧ (columns.write now other).failedLoginCount < lockoutThreshold)
    : ∃ after,
        CountsFailures email (db.writeUser other.id columns now) after
        ∧ (otherEmail = email → after = columns.write now other) := by
  have written
      : (db.writeUser other.id columns now).userByEmail email
        = .ok (some (if user.id = other.id then columns.write now user else user)) := by
    rw [Database.writeUser_userByEmail, counts.found]
    rfl
  by_cases same : user.id = other.id
  · have stored := (findBy_sound (Database.userByEmail_answered counts.found).2).1
    have storedOther := (findBy_sound (Database.userByEmail_answered found).2).1
    obtain rfl := eq_of_key_eq db.userIds stored storedOther same
    rw [if_pos rfl] at written
    exact ⟨_, ⟨written, (counted rfl).1, (counted rfl).2⟩, fun _ => rfl⟩
  · rw [if_neg same] at written
    refine ⟨user, ⟨written, counts.nonneg, counts.below⟩, ?_⟩
    rintro rfl
    cases counts.found.symm.trans found
    exact absurd rfl same

/-- A call that neither verifies a wrong password nor succeeds is none to the lockout. -/
theorem judgedMoment_ignored (right : verifiesWrong runtime (db, call) ≠ true)
    (unsuccessful : succeeds runtime (db, call) = false)
    : judgedMoment runtime (db, call) = ⟨call.now, .ignored⟩ := by
  simp [judgedMoment, right, unsuccessful]

/-- An attempt that verifies a wrong password counts a failure of the account that it reaches. -/
theorem attemptEnds_wrong {outcome : Except Raised LoginResult} {reached : Database}
    (ways : AttemptEnds runtime call.draws call.now call.attempt db outcome reached)
    (wrong : verifiesWrong runtime (db, call) = true)
    : ∃ other,
        Reaches runtime call.attempt db other
        ∧ Unlocked call.now other
        ∧ reached = db.writeUser other.id (failureColumns call.now other) call.now := by
  obtain ⟨other, reaches, unlocked, mismatch⟩ := verifiesWrong_iff.mp wrong
  refine ⟨other, reaches, unlocked, ?_⟩
  rcases ways.reached reaches with
    ⟨untilTime, lock, ahead, _⟩ | ⟨_, _, _, written⟩ | ⟨_, verified, _⟩ | ⟨_, verified, _⟩
  · exact absurd ahead (Int.not_lt.mpr (unlocked untilTime lock))
  · exact written
  · cases mismatch.symm.trans verified
  · cases mismatch.symm.trans verified

/-- One call moves the lockout of the account on by one attempt. -/
theorem CountsFailures.step (counts : CountsFailures email db user) (call : LoginCall)
    : ∃ after,
        CountsFailures email (serveLogin runtime db call).2 after
        ∧ (normalizeEmail runtime call.attempt.email = email
          → LockStep 5 (minutes 15) (lockState user) (judgedMoment runtime (db, call))
              (lockState after)) := by
  obtain ⟨outcome, reached, ways, ran⟩ := serveLogin_cases runtime db call
  by_cases wrong : verifiesWrong runtime (db, call) = true
  · obtain ⟨other, reaches, unlocked, rfl⟩ := attemptEnds_wrong ways wrong
    have judged : judgedMoment runtime (db, call) = ⟨call.now, .failed⟩ := by
      simp [judgedMoment, wrong]
    have counted
        : other = user
          → 0 ≤ ((failureColumns call.now other).write call.now other).failedLoginCount
            ∧ ((failureColumns call.now other).write call.now other).failedLoginCount
              < lockoutThreshold := by
      rintro rfl
      exact failureColumns_counts counts call.now
    obtain ⟨after, countsAfter, written⟩ := counts.write reaches.found counted
    rw [ran, judged]
    refine ⟨after, countsAfter, fun named => ?_⟩
    rw [written named]
    have same := counts.found
    rw [← named] at same
    cases same.symm.trans reaches.found
    exact failureColumns_step counts unlocked
  have answered : succeeds runtime (db, call) = isSuccess outcome := by rw [succeeds, ran]
  cases ways with
  | unsendable | unknown | inactive | locked | raised =>
      rw [ran, judgedMoment_ignored wrong answered]
      exact ⟨user, counts, fun _ => .ignored⟩
  | failed reaches unlocked mismatch =>
      exact absurd (verifiesWrong_iff.mpr ⟨_, reaches, unlocked, mismatch⟩) wrong
  | @succeeded other rehashed reaches unlocked verified hashed accepted =>
      have judged : judgedMoment runtime (db, call) = ⟨call.now, .succeeded⟩ := by
        simp [judgedMoment, wrong, answered, isSuccess]
      have counted
          : other = user
            → 0 ≤ ((successColumns call.now rehashed).write call.now other).failedLoginCount
              ∧ ((successColumns call.now rehashed).write call.now other).failedLoginCount
                < lockoutThreshold :=
        fun _ => ⟨Int.le_refl 0, show (0 : Int) < 5 by decide⟩
      obtain ⟨after, countsAfter, written⟩ := counts.write reaches.found counted
      rw [ran, judged]
      refine ⟨after, ⟨countsAfter.found, countsAfter.nonneg, countsAfter.below⟩, fun named => ?_⟩
      rw [written named]
      exact .succeeded

-----------------------------------------------------------------------------------------
-- Runs
-----------------------------------------------------------------------------------------

/-- An account that can be reached counts fewer failures than lock, by induction on what led
there.
-/
theorem ReachableAccount.counts (reachable : ReachableAccount runtime email db)
    : ∃ user, CountsFailures email db user := by
  induction reachable with
  | created found uncounted _ =>
      exact ⟨_, found, uncounted.symm.le, uncounted.trans_lt (show (0 : Int) < 5 by decide)⟩
  | attempted _ call ih =>
      obtain ⟨user, counts⟩ := ih
      obtain ⟨after, countsAfter, _⟩ := counts.step call
      exact ⟨after, countsAfter⟩
  | @changed before _ user changed _ found foundAfter same _ ih =>
      obtain ⟨other, counts⟩ := ih
      cases found.symm.trans counts.found
      exact ⟨changed, foundAfter, same.symm ▸ counts.nonneg, same.symm ▸ counts.below⟩

/-- Calls for the account are a run of its lockout, by induction on the calls. -/
theorem CountsFailures.lockRun (counts : CountsFailures email db user) {calls : List LoginCall}
    (named : ∀ call ∈ calls, normalizeEmail runtime call.attempt.email = email)
    : LockRun 5 (minutes 15) (lockState user)
        ((moments runtime db calls).map (judgedMoment runtime)) := by
  induction calls generalizing db user with
  | nil => exact .done
  | cons call later ih =>
      obtain ⟨first, named⟩ := List.forall_mem_cons.mp named
      obtain ⟨after, countsAfter, stepped⟩ := counts.step call
      exact .next (stepped first) (ih countsAfter named)

theorem moments_calls (db : Database) (calls : List LoginCall)
    : (moments runtime db calls).map Prod.snd = calls := by
  induction calls generalizing db with
  | nil => rfl
  | cons call later ih => rw [moments, List.map_cons, ih]

/-- The lockout's failures are the wrong passwords that were verified. -/
theorem judgedMoment_failed {moment : Database × LoginCall}
    : (judgedMoment runtime moment).verdict = .failed ↔ verifiesWrong runtime moment = true := by
  unfold judgedMoment
  split
  · rename_i wrong
    exact iff_of_true rfl wrong
  · rename_i right
    refine iff_of_false ?_ right
    split <;> simp

/-- Its successes are the logins that succeeded. -/
theorem succeeds_of_judged {moment : Database × LoginCall}
    (judged : (judgedMoment runtime moment).verdict = .succeeded)
    : succeeds runtime moment = true := by
  unfold judgedMoment at judged
  split at judged
  · cases judged
  · split at judged
    · assumption
    · cases judged

end Calls

/-- For every account in a state that it can reach, every run of attempts on it at times that do
not go back, and every half-open interval of `m` times 15 minutes in which no attempt succeeds:
at most `5 * m` wrong passwords are verified in it.
-/
theorem lockout_bounds_guesses (runtime : Runtime) (email : String) (db : Database)
    (reachable : ReachableAccount runtime email db) (calls : List LoginCall)
    (named : ∀ call ∈ calls, normalizeEmail runtime call.attempt.email = email)
    (ordered : calls.Pairwise (fun earlier later => earlier.now ≤ later.now))
    (start : Instant) (m : Nat)
    (unsuccessful
      : ∀ moment ∈ moments runtime db calls,
          ComesWithin start m moment → succeeds runtime moment = false)
    : (moments runtime db calls).countP
          (fun moment => decide (ComesWithin start m moment) && verifiesWrong runtime moment)
      ≤ 5 * m := by
  obtain ⟨user, counts⟩ := reachable.counts
  have span : (m : Int) * minutes 15 = m • minutes 15 := (Int.nsmul_eq_mul m (minutes 15)).symm
  have chronological
      : ((moments runtime db calls).map (judgedMoment runtime)).Pairwise
          (fun earlier later => earlier.time ≤ later.time) := by
    rw [← moments_calls db calls, List.pairwise_map] at ordered
    exact List.pairwise_map.mpr ordered
  have counted
      : (moments runtime db calls).countP
            (fun moment => decide (ComesWithin start m moment) && verifiesWrong runtime moment)
        = failuresWithin start (start + m • minutes 15)
            ((moments runtime db calls).map (judgedMoment runtime)) := by
    rw [failuresWithin, List.countP_map]
    refine List.countP_congr fun moment _ => ?_
    rw [Function.comp_apply, decide_eq_true_eq, judgedMoment_failed, Bool.and_eq_true,
      decide_eq_true_eq, and_comm, ComesWithin, span]
    rfl
  rw [counted]
  refine (counts.lockRun named).failuresWithin_le chronological ?_
  intro attempt member from_ before judged
  obtain ⟨moment, occurs, rfl⟩ := List.mem_map.mp member
  have within : ComesWithin start m moment := ⟨from_, span.symm ▸ before⟩
  cases (succeeds_of_judged judged).symm.trans (unsuccessful moment occurs within)

/-- The sample guess at a time. -/
def sampleGuessAt (now : Instant) : LoginCall := { sampleGuess with now }

/-- Of seven wrong passwords within 15 minutes at most five are verified. -/
theorem sampleGuesses_bounded
    : (moments sampleRuntime sampleDatabase ((List.range 7).map (fun k => sampleGuessAt k))).countP
          (fun moment =>
            decide (ComesWithin 0 1 moment) && verifiesWrong sampleRuntime moment)
      ≤ 5 * 1 := by
  have reachable : ReachableAccount sampleRuntime "admin@specter.example" sampleDatabase :=
    .created (by rfl) rfl rfl
  refine lockout_bounds_guesses sampleRuntime "admin@specter.example" sampleDatabase reachable _
    ?_ ?_ 0 1 ?_
  · intro call member
    obtain ⟨k, _, rfl⟩ := List.mem_map.mp member
    show normalizeEmail sampleRuntime sampleGuess.attempt.email = _
    decide
  · decide
  · decide +kernel

end SpecterCloud.Auth
