/-! Runs of a system with their histories, and what holds along them. -/

namespace SpecterCloud.Foundations

variable {State Event Call Answer : Type}

/-- Runs from a state. The history has the latest event first, and a step may depend on it. -/
inductive Runs (step : List Event → State → Event → State → Prop) (initial : State)
    : List Event → State → Prop
  | start : Runs step initial [] initial
  | next {history : List Event} {state after : State} {event : Event}
      (ran : Runs step initial history state) (stepped : step history state event after)
      : Runs step initial (event :: history) after

/-- What holds at the start and is kept by every step of a run holds after every run. -/
theorem Runs.invariant {step : List Event → State → Event → State → Prop} {initial : State}
    (holds : List Event → State → Prop) (start : holds [] initial)
    (next
      : ∀ {history state event after}, Runs step initial history state → holds history state
        → step history state event after → holds (event :: history) after)
    {history : List Event} {state : State} (ran : Runs step initial history state)
    : holds history state := by
  induction ran with
  | start => exact start
  | next ran stepped ih => exact next ran ih stepped

/-- The steps of a system that serves one permitted call after another; an event is a call
with its answer.
-/
def served (permitted : List (Call × Answer) → Call → Prop)
    (serve : State → Call → Answer × State) (history : List (Call × Answer)) (state : State)
    (event : Call × Answer) (after : State)
    : Prop :=
  permitted history event.1 ∧ serve state event.1 = (event.2, after)

/-- A run goes on with a permitted call and what it is answered. -/
theorem Runs.serve {permitted : List (Call × Answer) → Call → Prop}
    {serve : State → Call → Answer × State} {initial state : State}
    {history : List (Call × Answer)} (ran : Runs (served permitted serve) initial history state)
    (call : Call) (allowed : permitted history call)
    : Runs (served permitted serve) initial ((call, (serve state call).1) :: history)
        (serve state call).2 :=
  .next ran ⟨allowed, rfl⟩

/-- An event of a run happened in a state that the events before it lead to. -/
theorem Runs.at_event {step : List Event → State → Event → State → Prop} {initial final : State}
    {newer earlier : List Event} {event : Event}
    (ran : Runs step initial (newer ++ event :: earlier) final)
    : ∃ state after, Runs step initial earlier state ∧ step earlier state event after := by
  induction newer generalizing final with
  | nil =>
      cases ran with
      | next before stepped => exact ⟨_, _, before, stepped⟩
  | cons _ _ ih =>
      cases ran with
      | next before _ => exact ih before

/-- A system that serves calls is in one state after a history. -/
theorem Runs.served_unique {permitted : List (Call × Answer) → Call → Prop}
    {serve : State → Call → Answer × State} {initial left right : State}
    {history : List (Call × Answer)} (first : Runs (served permitted serve) initial history left)
    (second : Runs (served permitted serve) initial history right)
    : left = right := by
  induction first generalizing right with
  | start =>
      cases second
      rfl
  | next _ stepped ih =>
      cases second with
      | next before again =>
          obtain rfl := ih before
          exact congrArg Prod.snd (stepped.2.symm.trans again.2)

/-- What every step that meets a condition keeps, and no other step does, holds in every state of
a run exactly when every step of the run meets the condition.
-/
theorem Runs.served_throughout_iff {permitted : List (Call × Answer) → Call → Prop}
    {serve : State → Call → Answer × State} {initial : State} (holds : State → Prop)
    (meets : State → Call × Answer → Prop) (start : holds initial)
    (next
      : ∀ {state call answer after}, serve state call = (answer, after) → holds state
        → (holds after ↔ meets state (call, answer)))
    {history : List (Call × Answer)} {final : State}
    (ran : Runs (served permitted serve) initial history final)
    : (∀ earlier state,
          earlier <:+ history → Runs (served permitted serve) initial earlier state
          → holds state)
      ↔ ∀ event earlier state,
          event :: earlier <:+ history → Runs (served permitted serve) initial earlier state
          → meets state event := by
  constructor
  · rintro throughout event earlier state ⟨newer, rfl⟩ before
    obtain ⟨again, after, ranAgain, stepped⟩ := ran.at_event
    obtain rfl := before.served_unique ranAgain
    have held := throughout earlier state ⟨newer ++ [event], by simp⟩ before
    exact (next stepped.2 held).mp (throughout _ after ⟨newer, rfl⟩ (.next before stepped))
  · intro met earlier state within before
    induction before with
    | start => exact start
    | @next earlier state after event before stepped ih =>
        have held := ih ((List.suffix_cons event earlier).trans within)
        exact (next stepped.2 held).mpr (met event earlier state within before)

/-- Something happened in a history, and nothing after it undid it. -/
def Since (happened undone : Event → Prop) (history : List Event) : Prop :=
  ∃ later event earlier,
    history = later ++ event :: earlier ∧ happened event ∧ ∀ next ∈ later, ¬ undone next

/-- One more event makes it happen, or leaves it standing by not undoing it. -/
theorem since_cons {happened undone : Event → Prop} {event : Event} {history : List Event}
    : Since happened undone (event :: history)
      ↔ happened event ∨ (Since happened undone history ∧ ¬ undone event) := by
  constructor
  · rintro ⟨later, first, earlier, same, did, kept⟩
    cases later with
    | nil =>
        obtain ⟨rfl, rfl⟩ := List.cons.inj same
        exact .inl did
    | cons head rest =>
        obtain ⟨rfl, rfl⟩ := List.cons.inj same
        refine .inr ⟨⟨rest, first, earlier, rfl, did, ?_⟩, kept event List.mem_cons_self⟩
        exact fun next member => kept next (List.mem_cons_of_mem _ member)
  · rintro (did | ⟨⟨later, first, earlier, rfl, did, kept⟩, left⟩)
    · exact ⟨[], event, history, rfl, did, nofun⟩
    · refine ⟨event :: later, first, earlier, rfl, did, ?_⟩
      exact List.forall_mem_cons.mpr ⟨left, kept⟩

theorem not_since_nil {happened undone : Event → Prop} : ¬ Since happened undone [] := by
  rintro ⟨later, event, earlier, same, _⟩
  cases later <;> cases same

end SpecterCloud.Foundations
