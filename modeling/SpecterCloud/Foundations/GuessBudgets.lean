import Mathlib.Algebra.Order.Monoid.Defs
import SpecterCloud.Foundations.FailureLockouts

/-! How many failures a lockout lets through. Every `threshold` failures lock for a `duration`, so
an interval of so many durations without a success has at most so many times the threshold.
-/

namespace SpecterCloud.Foundations

variable {Time : Type} [AddCommMonoid Time] [LinearOrder Time]

/-- The failures counted since the last reset, and the end of the last lock. -/
structure LockState (Time : Type) where
  failures : Nat
  lockedUntil : Option Time

/-- No lock lies ahead of the time. -/
def LockState.Open (state : LockState Time) (time : Time) : Prop :=
  ∀ untilTime, state.lockedUntil = some untilTime → untilTime ≤ time

/-- One attempt. It fails only where no lock lies ahead, and locks if it is the last failure that
the threshold allows; a success clears the state, and other attempts leave it alone.
-/
inductive LockStep (threshold : Nat) (duration : Time)
    : LockState Time → JudgedAttempt Time → LockState Time → Prop
  | ignored {state : LockState Time} {time : Time}
      : LockStep threshold duration state ⟨time, .ignored⟩ state
  | succeeded {state : LockState Time} {time : Time}
      : LockStep threshold duration state ⟨time, .succeeded⟩
          { failures := 0, lockedUntil := none }
  | failed {state : LockState Time} {time : Time} (unlocked : state.Open time)
      (room : state.failures + 1 < threshold)
      : LockStep threshold duration state ⟨time, .failed⟩
          { state with failures := state.failures + 1 }
  | locked {state : LockState Time} {time : Time} (unlocked : state.Open time)
      (full : state.failures + 1 = threshold)
      : LockStep threshold duration state ⟨time, .failed⟩
          { failures := 0, lockedUntil := some (time + duration) }

/-- Attempts one after the other, the earliest first. -/
inductive LockRun (threshold : Nat) (duration : Time)
    : LockState Time → List (JudgedAttempt Time) → Prop
  | done {state : LockState Time} : LockRun threshold duration state []
  | next {state after : LockState Time} {attempt : JudgedAttempt Time}
      {later : List (JudgedAttempt Time)}
      (stepped : LockStep threshold duration state attempt after)
      (rest : LockRun threshold duration after later)
      : LockRun threshold duration state (attempt :: later)

/-- From every time on at which a failure can be let through, so many durations reach the
deadline.
-/
def LockState.Reaches (state : LockState Time) (start deadline duration : Time) (durations : Nat)
    : Prop :=
  ∀ time, start ≤ time → state.Open time → deadline ≤ time + durations • duration

/-- The failures in a half-open interval. -/
def failuresWithin (start deadline : Time) (attempts : List (JudgedAttempt Time)) : Nat :=
  attempts.countP
    (fun attempt => attempt.verdict = .failed ∧ start ≤ attempt.time ∧ attempt.time < deadline)

section Budgets

variable {threshold durations : Nat} {duration start deadline time : Time}
  {state : LockState Time} {attempts : List (JudgedAttempt Time)}

omit [AddCommMonoid Time] in
/-- Nothing is counted from the deadline on. -/
theorem failuresWithin_past (past : ∀ attempt ∈ attempts, deadline ≤ attempt.time)
    : failuresWithin start deadline attempts = 0 := by
  refine List.countP_eq_zero.mpr fun attempt member => ?_
  have late := not_lt.mpr (past attempt member)
  simp [late]

/-- The failure that locks leaves one duration less to the deadline. -/
theorem LockState.Reaches.locked [IsOrderedAddMonoid Time]
    (reaches : state.Reaches start deadline duration (durations + 1)) (later : start ≤ time)
    (unlocked : state.Open time)
    : LockState.Reaches { failures := 0, lockedUntil := some (time + duration) } start deadline
        duration durations := by
  intro next _ opened
  have ended : time + duration ≤ next := opened _ rfl
  calc deadline
    _ ≤ time + (durations + 1) • duration := reaches time later unlocked
    _ = time + duration + durations • duration := by rw [succ_nsmul', add_assoc]
    _ ≤ next + durations • duration := add_le_add_left ended _

/-- Before the deadline a failure is let through only while durations are left. -/
theorem LockState.Reaches.pos (reaches : state.Reaches start deadline duration durations)
    (later : start ≤ time) (unlocked : state.Open time) (before : time < deadline)
    : 0 < durations := by
  refine Nat.pos_of_ne_zero ?_
  rintro rfl
  have reached := reaches time later unlocked
  rw [zero_nsmul, add_zero] at reached
  exact not_le.mpr before reached

/-- From its start on, the failures that a run lets through before a deadline are at most the
threshold for each duration that is left, less what is counted already; by induction on the run.
-/
theorem LockRun.failures_le [IsOrderedAddMonoid Time]
    (ran : LockRun threshold duration state attempts)
    (ordered : attempts.Pairwise (fun earlier later => earlier.time ≤ later.time))
    (started : ∀ attempt ∈ attempts, start ≤ attempt.time)
    (unsuccessful
      : ∀ attempt ∈ attempts, attempt.time < deadline → attempt.verdict ≠ .succeeded)
    (reaches : state.Reaches start deadline duration durations)
    : failuresWithin start deadline attempts ≤ threshold * durations - state.failures := by
  induction ran generalizing durations with
  | done => simp [failuresWithin]
  | @next state after attempt later stepped _ ih =>
      obtain ⟨apart, chronological⟩ := List.pairwise_cons.mp ordered
      obtain ⟨first, onward⟩ := List.forall_mem_cons.mp started
      obtain ⟨unsuccessfulNow, unsuccessfulLater⟩ := List.forall_mem_cons.mp unsuccessful
      by_cases before : attempt.time < deadline
      · rw [failuresWithin, List.countP_cons, ← failuresWithin]
        cases stepped with
        | ignored => simpa using ih chronological onward unsuccessfulLater reaches
        | succeeded => exact absurd rfl (unsuccessfulNow before)
        | @failed time unlocked room =>
            have left := reaches.pos first unlocked before
            have budget : threshold ≤ threshold * durations := Nat.le_mul_of_pos_right _ left
            have counted := ih chronological onward unsuccessfulLater reaches
            dsimp only at counted
            simp only [first, before, and_self, decide_true, if_true]
            omega
        | @locked time unlocked full =>
            obtain ⟨left, rfl⟩ := Nat.exists_eq_add_of_lt (reaches.pos first unlocked before)
            rw [Nat.zero_add] at reaches ⊢
            have counted :=
              ih chronological onward unsuccessfulLater (reaches.locked first unlocked)
            dsimp only at counted
            simp only [first, before, and_self, decide_true, if_true, Nat.mul_add, Nat.mul_one]
            omega
      · have past : ∀ other ∈ attempt :: later, deadline ≤ other.time :=
          List.forall_mem_cons.mpr
            ⟨not_lt.mp before, fun other member => (not_lt.mp before).trans (apart other member)⟩
        rw [failuresWithin_past past]
        exact Nat.zero_le _

/-- A run lets through at most the threshold for each duration of an interval without a success,
wherever the interval lies; by induction on what comes before it.
-/
theorem LockRun.failuresWithin_le [IsOrderedAddMonoid Time]
    (ran : LockRun threshold duration state attempts)
    (ordered : attempts.Pairwise (fun earlier later => earlier.time ≤ later.time))
    (unsuccessful
      : ∀ attempt ∈ attempts,
          start ≤ attempt.time → attempt.time < start + durations • duration
          → attempt.verdict ≠ .succeeded)
    : failuresWithin start (start + durations • duration) attempts ≤ threshold * durations := by
  induction attempts generalizing state with
  | nil => simp [failuresWithin]
  | cons attempt later ih =>
      obtain ⟨apart, chronological⟩ := List.pairwise_cons.mp ordered
      by_cases started : start ≤ attempt.time
      · have all : ∀ other ∈ attempt :: later, start ≤ other.time :=
          List.forall_mem_cons.mpr
            ⟨started, fun other member => started.trans (apart other member)⟩
        have reaches
            : state.Reaches start (start + durations • duration) duration durations :=
          fun time later _ => add_le_add_left later _
        refine (ran.failures_le ordered all ?_ reaches).trans (Nat.sub_le _ _)
        exact fun other member => unsuccessful other member (all other member)
      · cases ran with
        | next _ rest =>
            have counted :=
              ih rest chronological (fun other member => unsuccessful other (.tail _ member))
            rwa [failuresWithin, List.countP_cons, ← failuresWithin, if_neg (by simp [started])]

end Budgets

end SpecterCloud.Foundations
