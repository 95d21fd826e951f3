import Mathlib.Algebra.Order.Group.Unbundled.Basic
import Mathlib.Algebra.Order.Group.Defs

/-! A debounced clock: a stored time that a touch replaces by its own time where nothing is
stored yet, or something that is older than an interval before the touch. The touches may come
in any order of their times.
-/

namespace SpecterCloud.Foundations

variable {Time : Type*} [AddCommGroup Time] [LinearOrder Time]

/-- What is stored after a touch. -/
def debounce (interval : Time) (stored : Option Time) (now : Time) : Option Time :=
  if stored.all (fun used => used < now - interval) then some now else stored

/-- What is stored after touches, the first one at the head. -/
def debounced (interval : Time) (stored : Option Time) (touches : List Time) : Option Time :=
  touches.foldl (debounce interval) stored

/-- What was stored is still stored, or something more than the interval later is. -/
def Climbs (interval : Time) (before after : Option Time) : Prop :=
  ∀ used, before = some used
    → ∃ later, after = some later ∧ (later = used ∨ used + interval < later)

/-- What is stored is at most the interval before the touch. -/
def Covers (interval : Time) (stored : Option Time) (now : Time) : Prop :=
  ∃ used, stored = some used ∧ now - interval ≤ used

variable {interval now : Time} {stored before middle after : Option Time} {touches : List Time}

theorem debounced_append (more : List Time)
    : debounced interval stored (touches ++ more)
      = debounced interval (debounced interval stored touches) more :=
  List.foldl_append

theorem Climbs.refl (interval : Time) (stored : Option Time) : Climbs interval stored stored :=
  fun used same => ⟨used, same, .inl rfl⟩

section Order

variable [IsOrderedAddMonoid Time]

/-- A touch is written, or what is stored covers it. -/
theorem debounce_cases (interval : Time) (stored : Option Time) (now : Time)
    : (debounce interval stored now = some now
        ∧ ∀ used, stored = some used → used + interval < now)
      ∨ (debounce interval stored now = stored ∧ Covers interval stored now) := by
  unfold debounce
  cases stored with
  | none => exact .inl ⟨rfl, nofun⟩
  | some used =>
      by_cases stale : used < now - interval
      · refine .inl ⟨by simp [stale], ?_⟩
        intro _ same
        cases same
        exact lt_sub_iff_add_lt.mp stale
      · exact .inr ⟨by simp [stale], used, rfl, not_lt.mp stale⟩

/-- Two steps of more than the interval are one. -/
theorem Climbs.trans (forward : 0 ≤ interval) (first : Climbs interval before middle)
    (second : Climbs interval middle after)
    : Climbs interval before after := by
  intro used held
  obtain ⟨later, heldLater, climbed⟩ := first used held
  obtain ⟨last, heldLast, climbedOn⟩ := second later heldLater
  refine ⟨last, heldLast, ?_⟩
  rcases climbed with rfl | climbed
  · exact climbedOn
  · rcases climbedOn with rfl | climbedOn
    · exact .inr climbed
    · have rises : later ≤ later + interval := le_add_of_nonneg_right forward
      exact .inr (climbed.trans (rises.trans_lt climbedOn))

/-- What is stored never decreases. -/
theorem Climbs.le (forward : 0 ≤ interval) (climbs : Climbs interval before after) {used : Time}
    (held : before = some used)
    : ∃ later, after = some later ∧ used ≤ later := by
  obtain ⟨later, heldLater, rfl | climbed⟩ := climbs used held
  · exact ⟨_, heldLater, le_rfl⟩
  · exact ⟨later, heldLater, (le_add_of_nonneg_right forward).trans climbed.le⟩

theorem debounce_climbs (interval : Time) (stored : Option Time) (now : Time)
    : Climbs interval stored (debounce interval stored now) := by
  rcases debounce_cases interval stored now with ⟨written, stale⟩ | ⟨kept, _⟩
  · exact fun used held => ⟨now, written, .inr (stale used held)⟩
  · rw [kept]
    exact .refl interval stored

/-- A touch is covered after it, written or not. -/
theorem debounce_covers (forward : 0 ≤ interval) (stored : Option Time) (now : Time)
    : Covers interval (debounce interval stored now) now := by
  rcases debounce_cases interval stored now with ⟨written, _⟩ | ⟨kept, covered⟩
  · exact ⟨now, written, sub_le_self now forward⟩
  · rw [kept]
    exact covered

/-- A touch that is covered stays so while the clock climbs. -/
theorem Covers.climbs (forward : 0 ≤ interval) (covers : Covers interval before now)
    (climbs : Climbs interval before after)
    : Covers interval after now := by
  obtain ⟨used, held, close⟩ := covers
  obtain ⟨later, heldLater, later_le⟩ := climbs.le forward held
  exact ⟨later, heldLater, close.trans later_le⟩

/-- The clock climbs along touches in any order of their times, by induction on them. -/
theorem debounced_climbs (forward : 0 ≤ interval) (stored : Option Time) (touches : List Time)
    : Climbs interval stored (debounced interval stored touches) := by
  induction touches generalizing stored with
  | nil => exact .refl interval stored
  | cons now rest ih => exact (debounce_climbs interval stored now).trans forward (ih _)

/-- Every touch is covered after it and all later ones. -/
theorem debounced_covers (forward : 0 ≤ interval) (touched : now ∈ touches)
    : Covers interval (debounced interval stored touches) now := by
  obtain ⟨earlier, later, rfl⟩ := List.append_of_mem touched
  rw [debounced_append]
  exact (debounce_covers forward _ now).climbs forward (debounced_climbs forward _ later)

end Order

/-- What is stored was stored at the start, or is the time of a touch. -/
theorem debounced_source (interval : Time) (stored : Option Time) (touches : List Time)
    : debounced interval stored touches = stored
      ∨ ∃ now ∈ touches, debounced interval stored touches = some now := by
  induction touches generalizing stored with
  | nil => exact .inl rfl
  | cons now rest ih =>
      have first : debounce interval stored now = stored ∨ debounce interval stored now = some now
          := by
        unfold debounce
        split
        · exact .inr rfl
        · exact .inl rfl
      rcases ih (debounce interval stored now) with kept | ⟨later, touched, written⟩
      · rcases first with same | written
        · exact .inl (kept.trans same)
        · exact .inr ⟨now, .head _, kept.trans written⟩
      · exact .inr ⟨later, .tail _ touched, written⟩

end SpecterCloud.Foundations
