import Mathlib.Data.List.Sort
import SpecterCloud.Foundations.PartialWalks

/-! `WITH RECURSIVE … UNION ALL` over a working table, and `ORDER BY … LIMIT 1`. -/

namespace SpecterCloud.Foundations

variable {α : Type*}

/-- The rows of a recursive query: the working table is emitted and replaced by what the
recursive term makes of it, duplicates kept, until it is empty.
-/
inductive UnionAll (recursive : List α → List α) : List α → List α → Prop
  | finished : UnionAll recursive [] []
  | round {working rest} (busy : working ≠ [])
    (later : UnionAll recursive (recursive working) rest)
    : UnionAll recursive working (working ++ rest)

/-- The rows emitted by the first `rounds` rounds. -/
def unionAllRounds (recursive : List α → List α) : Nat → List α → List α
  | 0, _ => []
  | rounds + 1, working => working ++ unionAllRounds recursive rounds (recursive working)

/-- A recursive query has one result, by induction on its evaluation. -/
theorem UnionAll.deterministic {recursive : List α → List α} {working first second : List α}
    (left : UnionAll recursive working first) (right : UnionAll recursive working second)
    : first = second := by
  induction left generalizing second with
  | finished =>
      cases right with
      | finished => rfl
      | round busy _ => exact absurd rfl busy
  | round busy _ ih =>
      cases right with
      | finished => exact absurd rfl busy
      | round _ later => rw [ih later]

/-- Rounds over an empty working table emit nothing more. -/
theorem unionAllRounds_nil {recursive : List α → List α} (still : recursive [] = [])
    (rounds : Nat)
    : unionAllRounds recursive rounds [] = [] := by
  induction rounds with
  | zero => rfl
  | succ rounds ih => rw [unionAllRounds, still, ih, List.append_nil]

/-- The working table after `rounds` rounds. -/
def workingTable (recursive : List α → List α) (rounds : Nat) (seed : List α) : List α :=
  recursive^[rounds] seed

/-- Enough rounds evaluate the query: they emit all its rows once the working table has
run empty, by induction on the rounds.
-/
theorem unionAllRounds_evaluates {recursive : List α → List α} (still : recursive [] = [])
    {rounds : Nat} {seed : List α} (ended : workingTable recursive rounds seed = [])
    : UnionAll recursive seed (unionAllRounds recursive rounds seed) := by
  induction rounds generalizing seed with
  | zero =>
      have empty : seed = [] := ended
      subst seed
      exact .finished
  | succ rounds ih =>
      by_cases busy : seed = []
      · subst seed
        rw [unionAllRounds_nil still]
        exact .finished
      · exact .round busy (ih ended)

/-- With one successor a row, the query emits the elements of the walk from the seed row,
each once for every step that meets it.
-/
theorem unionAllRounds_walk (next : α → Option α) (rounds : Nat) (seed : Option α)
    : unionAllRounds (List.flatMap fun row => (next row).toList) rounds seed.toList
      = (List.range rounds).filterMap (fun k => seed.bind (walk next k)) := by
  induction rounds generalizing seed with
  | zero => rfl
  | succ rounds ih =>
      cases seed with
      | none => simp [unionAllRounds_nil]
      | some row =>
          rw [List.range_succ_eq_map, unionAllRounds]
          have rest := ih (next row)
          simp only [Option.toList_some, List.flatMap_cons, List.flatMap_nil,
            List.append_nil]
          rw [rest]
          simp [List.filterMap_map, Function.comp_def, walk_succ]

-----------------------------------------------------------------------------------------
-- The first row in the order of a key
-----------------------------------------------------------------------------------------

/-- `ORDER BY key LIMIT 1`; rows with equal keys stay in the order they came in. -/
def orderByLimit1 (key : α → Nat) (rows : List α) : Option α :=
  (rows.insertionSort (fun left right => key left ≤ key right)).head?

/-- The limited query is empty exactly when there is no row to order. -/
theorem orderByLimit1_eq_none {key : α → Nat} {rows : List α}
    : orderByLimit1 key rows = none ↔ rows = [] := by
  rw [orderByLimit1, List.head?_eq_none_iff, ← List.length_eq_zero_iff,
    List.length_insertionSort, List.length_eq_zero_iff]

/-- The row it keeps is one of the rows, and none has a smaller key. -/
theorem orderByLimit1_minimal {key : α → Nat} {rows : List α} {first : α}
    (kept : orderByLimit1 key rows = some first)
    : first ∈ rows ∧ ∀ row ∈ rows, key first ≤ key row := by
  let before := fun left right : α => key left ≤ key right
  have : Std.Total before := ⟨fun left right => Nat.le_total (key left) (key right)⟩
  have : IsTrans α before := ⟨fun _ _ _ => Nat.le_trans⟩
  obtain ⟨rest, sorted⟩ : ∃ rest, rows.insertionSort before = first :: rest := by
    cases ordered : rows.insertionSort before with
    | nil => simp [orderByLimit1, before, ordered] at kept
    | cons head rest =>
        have same : head = first := by simpa [orderByLimit1, before, ordered] using kept
        exact ⟨rest, by rw [same]⟩
  have pairwise := List.pairwise_insertionSort before rows
  rw [sorted, List.pairwise_cons] at pairwise
  constructor
  · rw [← List.mem_insertionSort before, sorted]
    exact List.mem_cons_self
  · intro row member
    rw [← List.mem_insertionSort before, sorted] at member
    rcases List.mem_cons.mp member with same | later
    · rw [same]
    · exact pairwise.1 row later

/-- A row in front is kept unless a row behind it has a smaller key. -/
theorem orderByLimit1_cons (key : α → Nat) (first : α) (rows : List α)
    : orderByLimit1 key (first :: rows)
      = match orderByLimit1 key rows with
        | none => some first
        | some other => some (if key first ≤ key other then first else other) := by
  rw [orderByLimit1, List.insertionSort_cons, orderByLimit1]
  cases rows.insertionSort (fun left right => key left ≤ key right) with
  | nil => rfl
  | cons other rest =>
      rw [List.orderedInsert_cons]
      split <;> simp_all

/-- Of the rows with the least key one in front is kept, by induction on the rows in front. -/
theorem orderByLimit1_append {key : α → Nat} {front rows : List α} {row : α}
    (member : row ∈ front) (least : ∀ other ∈ front ++ rows, key row ≤ key other)
    : ∃ kept ∈ front, orderByLimit1 key (front ++ rows) = some kept := by
  induction front with
  | nil => cases member
  | cons first rest ih =>
      rw [List.cons_append, orderByLimit1_cons]
      cases behind : orderByLimit1 key (rest ++ rows) with
      | none => exact ⟨first, List.mem_cons_self, rfl⟩
      | some other =>
          rcases List.mem_cons.mp member with rfl | inRest
          · have first_ := least other (.tail _ (orderByLimit1_minimal behind).1)
            exact ⟨row, List.mem_cons_self, congrArg some (if_pos first_)⟩
          · have leastLater := fun other later => least other (.tail _ later)
            obtain ⟨kept, inFront, same⟩ := ih inRest leastLater
            cases behind.symm.trans same
            dsimp only
            split
            · exact ⟨first, List.mem_cons_self, rfl⟩
            · exact ⟨other, .tail _ inFront, rfl⟩

end SpecterCloud.Foundations
