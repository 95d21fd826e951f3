import Mathlib.Order.Interval.Finset.Nat
import Mathlib.Data.Set.Card

/-! Walks along a partial successor function, and how few steps visit all they can reach. -/

namespace SpecterCloud.Foundations

variable {α : Type*}

/-- The element `steps` successors after `start`, while the walk gets that far. -/
def walk (next : α → Option α) : Nat → α → Option α
  | 0, start => some start
  | steps + 1, start => (next start).bind (walk next steps)

/-- An element met after any number of steps. -/
def Reachable (next : α → Option α) (start target : α) : Prop :=
  ∃ steps, walk next steps start = some target

@[simp]
theorem walk_zero (next : α → Option α) (start : α) : walk next 0 start = some start := rfl

theorem walk_succ (next : α → Option α) (steps : Nat) (start : α)
    : walk next (steps + 1) start = (next start).bind (walk next steps) :=
  rfl

/-- Two walks compose, by induction on the first. -/
theorem walk_add (next : α → Option α) (first second : Nat) (start : α)
    : walk next (first + second) start
      = (walk next first start).bind (walk next second) := by
  induction first generalizing start with
  | zero => simp
  | succ first ih =>
      rw [Nat.succ_add, walk_succ, walk_succ]
      cases next start with
      | none => rfl
      | some middle => exact ih middle

/-- The last step of a walk is one successor. -/
theorem walk_last (next : α → Option α) (steps : Nat) (start : α)
    : walk next (steps + 1) start = (walk next steps start).bind next := by
  rw [walk_add]
  cases walk next steps start with
  | none => rfl
  | some middle => simp [walk]

/-- A walk that gets somewhere has an element at each earlier step. -/
theorem walk_prefix {next : α → Option α} {start target : α} {early late : Nat}
    (reached : walk next late start = some target) (le : early ≤ late)
    : ∃ middle, walk next early start = some middle := by
  obtain ⟨rest, rfl⟩ := Nat.exists_eq_add_of_le le
  rw [walk_add] at reached
  obtain ⟨middle, found, _⟩ := Option.bind_eq_some_iff.mp reached
  exact ⟨middle, found⟩

/-- Cutting a loop out of a walk keeps its target, by splitting at both visits. -/
theorem walk_cut {next : α → Option α} {start target : α} {early late steps : Nat}
    (loop : walk next early start = walk next late start) (le : late ≤ steps)
    (reached : walk next steps start = some target)
    : walk next (early + (steps - late)) start = some target := by
  rw [walk_add, loop, ← walk_add, Nat.add_sub_cancel' le]
  exact reached

/-- The elements of a shortest walk are pairwise distinct; a repeated one would cut it. -/
theorem walk_injOn_of_shortest {next : α → Option α} {start target : α} {steps : Nat}
    (reached : walk next steps start = some target)
    (shortest : ∀ fewer < steps, walk next fewer start ≠ some target)
    : Set.InjOn (fun k => walk next k start) (Set.Iic steps) := by
  intro i hi j hj same
  simp only [Set.mem_Iic] at hi hj
  rcases Nat.lt_trichotomy i j with below | equal | above
  · exact absurd (walk_cut same hj reached) (shortest _ (by omega))
  · exact equal
  · exact absurd (walk_cut same.symm hi reached) (shortest _ (by omega))

/-- A shortest walk visits one more element than it takes steps. -/
theorem shortest_walk_lt {next : α → Option α} {start target : α} {steps size : Nat}
    (small : {element | Reachable next start element}.encard ≤ size)
    (reached : walk next steps start = some target)
    (shortest : ∀ fewer < steps, walk next fewer start ≠ some target)
    : steps < size := by
  have visited : Set.MapsTo (fun k => walk next k start) (Set.Iic steps)
      (some '' {element | Reachable next start element}) := by
    intro k hk
    obtain ⟨middle, found⟩ := walk_prefix reached hk
    exact ⟨middle, ⟨k, found⟩, found.symm⟩
  have bound := Set.encard_le_encard_of_injOn visited (walk_injOn_of_shortest reached shortest)
  rw [(Option.some_injective α).encard_image, ← Finset.coe_Iic,
    Set.encard_coe_eq_coe_finsetCard, Nat.card_Iic] at bound
  have := bound.trans small
  exact_mod_cast this

-----------------------------------------------------------------------------------------
-- The first wanted element of a walk
-----------------------------------------------------------------------------------------

/-- The walk meets a wanted element after `steps` steps and none before. -/
structure FirstMet (next : α → Option α) (start : α) (Wanted : α → Prop) (steps : Nat)
    (element : α)
    : Prop where
  reached : walk next steps start = some element
  wanted : Wanted element
  first : ∀ k < steps, ∀ earlier, walk next k start = some earlier → ¬ Wanted earlier

variable {next : α → Option α} {start : α} {Wanted : α → Prop}

/-- A walk has at most one first wanted element. -/
theorem FirstMet.unique {left right : Nat} {a b : α}
    (hl : FirstMet next start Wanted left a) (hr : FirstMet next start Wanted right b)
    : left = right ∧ a = b := by
  have same : left = right := by
    rcases Nat.lt_trichotomy left right with below | equal | above
    · exact absurd hl.wanted (hr.first left below a hl.reached)
    · exact equal
    · exact absurd hr.wanted (hl.first right above b hr.reached)
  subst same
  exact ⟨rfl, Option.some.inj (hl.reached.symm.trans hr.reached)⟩

/-- A walk that meets a wanted element has a first one, no later. -/
theorem FirstMet.exists_le {steps : Nat} {element : α}
    (reached : walk next steps start = some element) (wanted : Wanted element)
    : ∃ k ≤ steps, ∃ earlier, FirstMet next start Wanted k earlier := by
  classical
  have met : ∃ k, ∃ a, walk next k start = some a ∧ Wanted a := ⟨steps, element, reached, wanted⟩
  obtain ⟨a, found, holds⟩ := Nat.find_spec met
  refine ⟨Nat.find met, Nat.find_min' met ⟨element, reached, wanted⟩, a, found, holds, ?_⟩
  intro k lt earlier visited holdsEarlier
  exact Nat.find_min met lt ⟨earlier, visited, holdsEarlier⟩

/-- The first wanted element is met within as many steps as there are reachable elements;
a shorter way to it would have met it earlier.
-/
theorem FirstMet.steps_lt {steps size : Nat} {element : α}
    (met : FirstMet next start Wanted steps element)
    (small : {element | Reachable next start element}.encard ≤ size)
    : steps < size :=
  shortest_walk_lt small met.reached
    (fun fewer lt visited => met.first fewer lt element visited met.wanted)

end SpecterCloud.Foundations
