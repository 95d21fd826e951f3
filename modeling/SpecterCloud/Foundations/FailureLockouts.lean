/-! A lockout policy read off a history of attempts: so many failures in a row are a lock event,
and the count starts again after a lock event and after a success.
-/

namespace SpecterCloud.Foundations

/-- What an attempt means to the policy; an ignored one was not processed. -/
inductive Verdict
  | succeeded
  | failed
  | ignored
deriving DecidableEq

/-- An attempt with its time. Histories have the latest attempt first. -/
structure JudgedAttempt (Time : Type) where
  time : Time
  verdict : Verdict

variable {Time : Type} (threshold : Nat)

/-- The attempts since the latest of the start, the last success and the last lock event, which
is the failure that makes the number of failures among them `threshold`.
-/
def sinceReset : List (JudgedAttempt Time) → List (JudgedAttempt Time)
  | [] => []
  | attempt :: earlier =>
      match attempt.verdict with
      | .succeeded => []
      | .ignored => attempt :: sinceReset earlier
      | .failed =>
          if (sinceReset earlier).countP (fun old => old.verdict = .failed) + 1 = threshold then
            []
          else
            attempt :: sinceReset earlier

/-- The failures since the latest reset. -/
def failures (history : List (JudgedAttempt Time)) : Nat :=
  (sinceReset threshold history).countP (fun attempt => attempt.verdict = .failed)

/-- The attempt, after the earlier ones, is a lock event. -/
def IsLock (attempt : JudgedAttempt Time) (earlier : List (JudgedAttempt Time)) : Prop :=
  attempt.verdict = .failed ∧ failures threshold earlier + 1 = threshold

instance (attempt : JudgedAttempt Time) (earlier : List (JudgedAttempt Time))
    : Decidable (IsLock threshold attempt earlier) :=
  inferInstanceAs (Decidable (_ ∧ _))

/-- The time of the latest lock event, if no success came after it. -/
def latestLock : List (JudgedAttempt Time) → Option Time
  | [] => none
  | attempt :: earlier =>
      if attempt.verdict = .succeeded then
        none
      else if IsLock threshold attempt earlier then
        some attempt.time
      else
        latestLock earlier

variable {threshold} {attempt : JudgedAttempt Time} {earlier : List (JudgedAttempt Time)}

theorem sinceReset_succeeded (succeeded : attempt.verdict = .succeeded)
    : sinceReset threshold (attempt :: earlier) = [] := by
  obtain ⟨time, verdict⟩ := attempt
  obtain rfl : verdict = .succeeded := succeeded
  rfl

theorem sinceReset_ignored (ignored : attempt.verdict = .ignored)
    : sinceReset threshold (attempt :: earlier) = attempt :: sinceReset threshold earlier := by
  obtain ⟨time, verdict⟩ := attempt
  obtain rfl : verdict = .ignored := ignored
  rfl

theorem sinceReset_failed (failed : attempt.verdict = .failed)
    : sinceReset threshold (attempt :: earlier)
      = if failures threshold earlier + 1 = threshold then []
        else attempt :: sinceReset threshold earlier := by
  obtain ⟨time, verdict⟩ := attempt
  obtain rfl : verdict = .failed := failed
  rfl

theorem latestLock_cons
    : latestLock threshold (attempt :: earlier)
      = if attempt.verdict = .succeeded then none
        else if IsLock threshold attempt earlier then some attempt.time
        else latestLock threshold earlier :=
  rfl

theorem failures_succeeded (succeeded : attempt.verdict = .succeeded)
    : failures threshold (attempt :: earlier) = 0 := by
  rw [failures, sinceReset_succeeded succeeded, List.countP_nil]

theorem failures_ignored (ignored : attempt.verdict = .ignored)
    : failures threshold (attempt :: earlier) = failures threshold earlier := by
  simp [failures, sinceReset_ignored ignored, ignored]

/-- The failure that locks starts the count again. -/
theorem failures_lock (lock : IsLock threshold attempt earlier)
    : failures threshold (attempt :: earlier) = 0 := by
  rw [failures, sinceReset_failed lock.1, if_pos lock.2, List.countP_nil]

/-- Any other failure is counted. -/
theorem failures_failed (failed : attempt.verdict = .failed)
    (free : ¬ IsLock threshold attempt earlier)
    : failures threshold (attempt :: earlier) = failures threshold earlier + 1 := by
  have room : ¬ failures threshold earlier + 1 = threshold := fun full => free ⟨failed, full⟩
  rw [failures, sinceReset_failed failed, if_neg room]
  simp [failures, failed]

theorem latestLock_succeeded (succeeded : attempt.verdict = .succeeded)
    : latestLock threshold (attempt :: earlier) = none := by
  rw [latestLock_cons, if_pos succeeded]

theorem latestLock_lock (lock : IsLock threshold attempt earlier)
    : latestLock threshold (attempt :: earlier) = some attempt.time := by
  simp [latestLock_cons, lock, lock.1]

/-- An attempt that neither succeeds nor locks leaves the latest lock where it is. -/
theorem latestLock_kept (unsuccessful : attempt.verdict ≠ .succeeded)
    (free : ¬ IsLock threshold attempt earlier)
    : latestLock threshold (attempt :: earlier) = latestLock threshold earlier := by
  rw [latestLock_cons, if_neg unsuccessful, if_neg free]

/-- No more failures are counted than there were attempts, by induction on the history. -/
theorem failures_le (history : List (JudgedAttempt Time))
    : failures threshold history ≤ history.length := by
  induction history with
  | nil => exact Nat.le_refl 0
  | cons attempt earlier ih =>
      rw [List.length_cons]
      cases verdict : attempt.verdict with
      | succeeded =>
          rw [failures_succeeded verdict]
          omega
      | ignored =>
          rw [failures_ignored verdict]
          omega
      | failed =>
          by_cases lock : IsLock threshold attempt earlier
          · rw [failures_lock lock]
            omega
          · rw [failures_failed verdict lock]
            omega

/-- Fewer attempts than the threshold do not lock, by induction on the history. -/
theorem latestLock_short {history : List (JudgedAttempt Time)} (short : history.length < threshold)
    : latestLock threshold history = none := by
  induction history with
  | nil => rfl
  | cons attempt earlier ih =>
      rw [List.length_cons] at short
      have free : ¬ IsLock threshold attempt earlier := by
        rintro ⟨_, full⟩
        have few : failures threshold earlier ≤ earlier.length := failures_le earlier
        omega
      by_cases succeeded : attempt.verdict = .succeeded
      · exact latestLock_succeeded succeeded
      · rw [latestLock_kept succeeded free]
        exact ih (by omega)

/-- The count never reaches the threshold, by induction on the history. -/
theorem failures_lt (positive : 0 < threshold) (history : List (JudgedAttempt Time))
    : failures threshold history < threshold := by
  induction history with
  | nil => exact positive
  | cons attempt earlier ih =>
      cases verdict : attempt.verdict with
      | succeeded => rwa [failures_succeeded verdict]
      | ignored => rwa [failures_ignored verdict]
      | failed =>
          by_cases lock : IsLock threshold attempt earlier
          · rwa [failures_lock lock]
          · rw [failures_failed verdict lock]
            have room : failures threshold earlier + 1 ≠ threshold :=
              fun full => lock ⟨verdict, full⟩
            omega

end SpecterCloud.Foundations
