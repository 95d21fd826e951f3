import Mathlib.Data.List.Forall2
import Mathlib.Data.List.Nodup

/-! Rows of a table under a key: updates that leave the key alone, and lookup by the key. -/

namespace SpecterCloud.Foundations

section Keys

variable {Row Key : Type*} {key : Row → Key} {rows : List Row}

/-- `UPDATE … WHERE matching`: the matching rows are changed in place. -/
def rewriteWhere (matching : Row → Bool) (change : Row → Row) (rows : List Row) : List Row :=
  rows.map (fun row => if matching row then change row else row)

/-- Two rows of one key are one row where keys are unique. -/
theorem eq_of_key_eq (unique : (rows.map key).Nodup) {left right : Row}
    (hl : left ∈ rows) (hr : right ∈ rows) (same : key left = key right)
    : left = right :=
  List.inj_on_of_nodup_map unique hl hr same

/-- Two of at most one row are one. -/
theorem eq_of_length_le_one (few : rows.length ≤ 1) {left right : Row} (hl : left ∈ rows)
    (hr : right ∈ rows)
    : left = right := by
  match rows, few, hl, hr with
  | [_], _, hl, hr => exact (List.mem_singleton.mp hl).trans (List.mem_singleton.mp hr).symm

/-- Appending a row under a fresh key keeps the keys unique. -/
theorem nodup_append_fresh {row : Row} (unique : (rows.map key).Nodup)
    (fresh : key row ∉ rows.map key)
    : ((rows ++ [row]).map key).Nodup := by
  rw [List.map_append, List.map_singleton]
  exact List.nodup_append.mpr ⟨unique, List.nodup_singleton _, fun a ha b hb =>
    List.mem_singleton.mp hb ▸ fun same => fresh (same ▸ ha)⟩

variable {matching : Row → Bool} {change : Row → Row}

/-- An update that keeps a column keeps the whole list of its values. -/
theorem map_rewriteWhere {Column : Type*} {column : Row → Column}
    (keeps : ∀ row, column (change row) = column row) (rows : List Row)
    : (rewriteWhere matching change rows).map column = rows.map column := by
  rw [rewriteWhere, List.map_map]
  apply List.map_congr_left
  intro row _
  by_cases hit : matching row = true <;> simp [hit, keeps]

/-- An update that keeps a key keeps it unique. -/
theorem nodup_rewriteWhere (unique : (rows.map key).Nodup)
    (keeps : ∀ row, key (change row) = key row)
    : ((rewriteWhere matching change rows).map key).Nodup := by
  rw [map_rewriteWhere keeps]
  exact unique

/-- Two updates by one change that is settled after once are one update of either's rows. -/
theorem rewriteWhere_rewriteWhere {also : Row → Bool}
    (settled : ∀ row, change (change row) = change row)
    (keeps : ∀ row, also (change row) = also row)
    : rewriteWhere also change (rewriteWhere matching change rows)
      = rewriteWhere (fun row => matching row || also row) change rows := by
  rw [rewriteWhere, rewriteWhere, List.map_map, rewriteWhere]
  apply List.map_congr_left
  intro row _
  cases hit : matching row <;> cases hitAlso : also row <;>
    simp [hit, hitAlso, settled, keeps]

/-- A row of the updated table comes from one row of the old table. -/
theorem mem_rewriteWhere {row : Row}
    : row ∈ rewriteWhere matching change rows
      ↔ ∃ old ∈ rows, (if matching old then change old else old) = row := by
  simp [rewriteWhere]

/-- An update relates the rows one by one: a matching row as `related`, another one to itself. -/
theorem forall₂_rewriteWhere {related : Row → Row → Prop}
    (changes : ∀ row ∈ rows, matching row = true → related row (change row))
    : List.Forall₂ (fun row next => if matching row then related row next else next = row) rows
        (rewriteWhere matching change rows) := by
  rw [rewriteWhere, List.forall₂_map_right_iff, List.forall₂_same]
  intro row stored
  cases hit : matching row with
  | true => exact changes row stored hit
  | false => rfl

/-- Rows that an update does not match are selected as before. -/
theorem filter_rewriteWhere {wanted : Row → Bool} (keeps : ∀ row, wanted (change row) = wanted row)
    (apart : ∀ row, wanted row = true → matching row = false)
    : (rewriteWhere matching change rows).filter wanted = rows.filter wanted := by
  induction rows with
  | nil => rfl
  | cons row rest ih =>
      rw [rewriteWhere, List.map_cons, ← rewriteWhere]
      cases sought : wanted row with
      | true => simp [apart row sought, sought, ih]
      | false =>
          have changed : wanted (if matching row then change row else row) = false := by
            split
            · rw [keeps, sought]
            · exact sought
          simp [changed, sought, ih]

end Keys

-----------------------------------------------------------------------------------------
-- Lookup by a key
-----------------------------------------------------------------------------------------

section Lookup

variable {Row Key : Type*} [DecidableEq Key] {key : Row → Key} {wanted : Key}
  {rows : List Row}

/-- The first row with the given key. -/
def findBy (key : Row → Key) (wanted : Key) (rows : List Row) : Option Row :=
  rows.find? (fun row => key row = wanted)

/-- A found row is stored under the wanted key. -/
theorem findBy_sound {row : Row} (found : findBy key wanted rows = some row)
    : row ∈ rows ∧ key row = wanted :=
  ⟨List.mem_of_find?_eq_some found, by simpa using List.find?_some found⟩

/-- Nothing is found exactly when no row has the key. -/
theorem findBy_eq_none : findBy key wanted rows = none ↔ wanted ∉ rows.map key := by
  simp [findBy, List.find?_eq_none]

/-- Under a unique key, lookup is membership. -/
theorem findBy_eq_some_iff {row : Row} (unique : (rows.map key).Nodup)
    : findBy key wanted rows = some row ↔ row ∈ rows ∧ key row = wanted := by
  constructor
  · exact findBy_sound
  · rintro ⟨member, rfl⟩
    cases found : findBy key (key row) rows with
    | none => exact absurd (List.mem_map_of_mem member) (findBy_eq_none.mp found)
    | some other =>
        obtain ⟨stored, same⟩ := findBy_sound found
        rw [eq_of_key_eq unique stored member same]

/-- Under a unique key, lookup does not depend on the order of the rows. -/
theorem findBy_perm {other : List Row} (unique : (rows.map key).Nodup) (same : rows.Perm other)
    : findBy key wanted rows = findBy key wanted other := by
  have uniqueOther := (same.map key).nodup_iff.mp unique
  ext row
  rw [findBy_eq_some_iff unique, findBy_eq_some_iff uniqueOther, same.mem_iff]

/-- Rows that are appended do not change the lookup of a key that is there. -/
theorem findBy_append (known : wanted ∈ rows.map key) (added : List Row)
    : findBy key wanted (rows ++ added) = findBy key wanted rows := by
  cases found : findBy key wanted rows with
  | none => exact absurd known (findBy_eq_none.mp found)
  | some row =>
      rw [findBy] at found
      rw [findBy, List.find?_append, found, Option.some_or]

/-- Under a unique key, selecting by the key leaves at most the row that lookup finds. -/
theorem filter_key (unique : (rows.map key).Nodup)
    : rows.filter (fun row => key row = wanted) = (findBy key wanted rows).toList := by
  induction rows with
  | nil => rfl
  | cons head rest ih =>
      rw [List.map_cons, List.nodup_cons] at unique
      by_cases same : key head = wanted
      · have alone : rest.filter (fun row => key row = wanted) = [] := by
          rw [ih unique.2, findBy_eq_none.mpr (same ▸ unique.1)]
          rfl
        simp [findBy, same, alone]
      · simpa [findBy, same] using ih unique.2

/-- Lookup after an update that keeps the key is the updated lookup. -/
theorem findBy_rewriteWhere {matching : Row → Bool} {change : Row → Row}
    (keeps : ∀ row, key (change row) = key row)
    : findBy key wanted (rewriteWhere matching change rows)
      = (findBy key wanted rows).map
          (fun row => if matching row then change row else row) := by
  rw [findBy, rewriteWhere, List.find?_map, findBy]
  congr 1
  apply congrArg (fun p => List.find? p rows)
  funext row
  by_cases hit : matching row = true <;> simp [hit, keeps]

end Lookup

end SpecterCloud.Foundations
