import SpecterCloud.Foundations.RowRaces

/-! Counting attempts that race on one row. A SELECT that overlaps with another attempt loses an
update: when all have ended, the count is less than the number of attempts.
-/

namespace SpecterCloud.Foundations

variable {Attempt Row : Type}

section Counters

variable [DecidableEq Attempt] [Fintype Attempt]
  {updateOf : Attempt → Row → Option (Row → Row)} {good : Row → Prop} {count : Row → Int}
  {initial : Row} {race after : Race Attempt Row} {history : List (RaceEvent Attempt)}
  {i : Attempt}

/-- On a good row every attempt increments the count that it has read, while that is less than
the number of attempts.
-/
def Increments (updateOf : Attempt → Row → Option (Row → Row)) (good : Row → Prop)
    (count : Row → Int)
    : Prop :=
  ∀ i read, good read → count read < Fintype.card Attempt
    → ∃ update,
        updateOf i read = some update
        ∧ ∀ latest, good latest → good (update latest) ∧ count (update latest) = count read + 1

/-- A version of the row whose count does not exceed the number of ended attempts, and which
has that number as its count only if the committed row has it too.
-/
structure Race.Dated (good : Row → Prop) (count : Row → Int) (race : Race Attempt Row)
    (read : Row)
    : Prop where
  good : good read
  le : count read ≤ race.endedCount
  current : count read = race.endedCount → count race.row = race.endedCount

/-- The committed row and the reads in flight are such versions. -/
structure Race.Counted (good : Row → Prop) (count : Row → Int) (race : Race Attempt Row)
    : Prop where
  row : race.Dated good count race.row
  reads : ∀ i read, race.reads i = some read → race.Dated good count read

/-- An ended attempt is not counted, or one in flight is not going to be. -/
def Race.Lost (count : Row → Int) (race : Race Attempt Row) : Prop :=
  count race.row < race.endedCount
  ∨ (∃ i read, race.reads i = some read ∧ count read < race.endedCount)
  ∨ ∃ i j, i ≠ j ∧ (race.reads i).isSome ∧ (race.reads j).isSome

omit [DecidableEq Attempt] in
theorem Race.Dated.congr {read : Row} (dated : race.Dated good count read)
    (row : after.row = race.row) (ended : after.ended = race.ended)
    : after.Dated good count read := by
  have same := endedCount_congr ended
  refine ⟨dated.good, ?_, ?_⟩
  · rw [same]
    exact dated.le
  · rw [row, same]
    exact dated.current

omit [DecidableEq Attempt] in
/-- One more end leaves an old version behind. -/
theorem Race.Dated.outdated {read : Row} (dated : race.Dated good count read)
    (more : after.endedCount = race.endedCount + 1)
    : after.Dated good count read := by
  have bounded := dated.le
  exact ⟨dated.good, by omega, fun full => by omega⟩

omit [DecidableEq Attempt] in
/-- An attempt in flight publishes the increment of what it has read. -/
theorem Race.Counted.published (counted : race.Counted good count)
    (increments : Increments updateOf good count) {read : Row}
    (reading : race.reads i = some read)
    : good (published updateOf i read race.row)
      ∧ count (published updateOf i read race.row) = count read + 1 := by
  have dated := counted.reads i read reading
  have small : count read < Fintype.card Attempt := by
    have bounded := dated.le
    have room := endedCount_lt reading
    omega
  obtain ⟨update, chosen, incremented⟩ := increments i read dated.good small
  rw [Foundations.published, chosen]
  exact incremented race.row counted.row.good

/-- Every step keeps the counts within the number of ended attempts. -/
theorem Race.Counted.step (counted : race.Counted good count)
    (increments : Increments updateOf good count) (turn : race.Turn updateOf i after)
    : after.Counted good count := by
  cases turn with
  | joins waiting row reads ended =>
      refine ⟨row ▸ counted.row.congr row ended, ?_⟩
      intro j read reading
      rw [reads, Function.update_apply] at reading
      split at reading
      · cases reading
        exact counted.row.congr row ended
      · exact (counted.reads j read reading).congr row ended
  | onward started row reads ended =>
      refine ⟨row ▸ counted.row.congr row ended, ?_⟩
      intro j read reading
      exact (counted.reads j read (reads ▸ reading)).congr row ended
  | @ends read reading row reads ended =>
      have more := endedCount_ends reading ended
      have bounded := (counted.reads i read reading).le
      obtain ⟨good, incremented⟩ := counted.published increments reading
      refine ⟨⟨row ▸ good, ?_, id⟩, ?_⟩
      · rw [row, incremented, more]
        omega
      · intro j other later
        exact (counted.reads j other (reads_ended reads later).1).outdated more

/-- An overlapping SELECT loses an update. -/
theorem Race.Lost.overlapped (turn : race.Turn updateOf i after)
    (overlaps : race.overlaps i = true)
    : after.Lost count := by
  have waiting : race.phases i = .waiting := by
    unfold Race.overlaps at overlaps
    split at overlaps
    · assumption
    · cases overlaps
  obtain ⟨j, joined⟩ : ∃ j, (race.reads j).isSome := by
    simpa [Race.overlaps, waiting, Race.reads] using overlaps
  have apart : j ≠ i := by
    intro same
    simp [Race.reads, same, waiting, Phase.inFlight] at joined
  cases turn with
  | joins _ row reads ended =>
      refine .inr (.inr ⟨j, i, apart, ?_, ?_⟩)
      · rw [reads, Function.update_of_ne apart]
        exact joined
      · rw [reads, Function.update_self]
        rfl
  | onward started => exact absurd waiting started
  | ends reading => simp [Race.reads, waiting, Phase.inFlight] at reading

omit [DecidableEq Attempt] in
/-- A step that ends nobody keeps what is lost. -/
theorem Race.Lost.kept (lost : race.Lost count) (row : after.row = race.row)
    (ended : after.ended = race.ended)
    (reads : ∀ j read, race.reads j = some read → after.reads j = some read)
    : after.Lost count := by
  have same := endedCount_congr ended
  rcases lost with behind | ⟨j, read, reading, behind⟩ | ⟨j, k, apart, first, second⟩
  · exact .inl (by rw [row, same]; exact behind)
  · exact .inr (.inl ⟨j, read, reads j read reading, by rw [same]; exact behind⟩)
  · obtain ⟨_, firstRead⟩ := Option.isSome_iff_exists.mp first
    obtain ⟨_, secondRead⟩ := Option.isSome_iff_exists.mp second
    refine .inr (.inr ⟨j, k, apart, ?_, ?_⟩)
    · rw [reads j _ firstRead]
      rfl
    · rw [reads k _ secondRead]
      rfl

/-- Somebody else in flight has not read of an attempt that ends. -/
theorem Race.Lost.behind {read other : Row} {j : Attempt} (counted : race.Counted good count)
    (reading : race.reads i = some read) (readingToo : race.reads j = some other)
    (apart : j ≠ i) (reads : after.reads = Function.update race.reads i none)
    (ended : after.ended = Function.update race.ended i true)
    : after.Lost count := by
  have more := endedCount_ends reading ended
  have bounded := (counted.reads j other readingToo).le
  refine .inr (.inl ⟨j, other, ?_, by omega⟩)
  rw [reads, Function.update_of_ne apart]
  exact readingToo

/-- The end of an attempt keeps what is lost, by what was lost before. -/
theorem Race.Lost.ended {read : Row} (lost : race.Lost count)
    (counted : race.Counted good count) (increments : Increments updateOf good count)
    (reading : race.reads i = some read) (row : after.row = published updateOf i read race.row)
    (reads : after.reads = Function.update race.reads i none)
    (ended : after.ended = Function.update race.ended i true)
    : after.Lost count := by
  have dated := counted.reads i read reading
  have bounded := dated.le
  have short : count read < race.endedCount → after.Lost count := by
    intro behind
    refine .inl ?_
    rw [row, (counted.published increments reading).2, endedCount_ends reading ended]
    omega
  rcases lost with behind | ⟨j, other, readingToo, behind⟩ | ⟨j, k, apart, first, second⟩
  · -- the committed row misses an attempt, so what this one has read does too
    have outdated : count read ≠ race.endedCount := by
      intro full
      have current := dated.current full
      omega
    exact short (by omega)
  · by_cases same : j = i
    · cases (same ▸ readingToo).symm.trans reading
      exact short behind
    · exact .behind counted reading readingToo same reads ended
  · -- one of the two stays in flight
    obtain ⟨_, firstRead⟩ := Option.isSome_iff_exists.mp first
    obtain ⟨_, secondRead⟩ := Option.isSome_iff_exists.mp second
    by_cases same : j = i
    · have still : k ≠ i := fun clash => apart (same.trans clash.symm)
      exact .behind counted reading secondRead still reads ended
    · exact .behind counted reading firstRead same reads ended

/-- A lost update stays lost. -/
theorem Race.Lost.step (lost : race.Lost count) (counted : race.Counted good count)
    (increments : Increments updateOf good count) (turn : race.Turn updateOf i after)
    : after.Lost count := by
  cases turn with
  | joins waiting row reads ended =>
      refine lost.kept row ended ?_
      intro j read reading
      have other : j ≠ i := by
        rintro rfl
        simp [Race.reads, waiting, Phase.inFlight] at reading
      rw [reads, Function.update_of_ne other]
      exact reading
  | onward started row reads ended =>
      exact lost.kept row ended (fun j read reading => reads ▸ reading)
  | ends reading row reads ended =>
      exact lost.ended counted increments reading row reads ended

/-- A race of counting attempts with an overlap ends with a count that misses one of them. -/
theorem Races.lost_update (ran : Races updateOf initial history race)
    (increments : Increments updateOf good count) (start : good initial)
    (zero : count initial = 0) (overlapped : ¬ Apart history)
    (ended : ∀ i, race.ended i = true)
    : count race.row < Fintype.card Attempt := by
  have kept : race.Counted good count ∧ (¬ Apart history → race.Lost count) := by
    refine Runs.invariant
      (fun history race => race.Counted good count ∧ (¬ Apart history → race.Lost count))
      ?_ ?_ ran
    · refine ⟨⟨⟨start, ?_, id⟩, nofun⟩, fun some => absurd nofun some⟩
      show count initial ≤ _
      omega
    · intro history race event after ran kept stepped
      obtain ⟨counted, lost⟩ := kept
      obtain ⟨advanced, overlapping⟩ := stepped
      have turn := (Races.sound ran).turn (Race.advance_moves advanced)
      refine ⟨counted.step increments turn, fun overlapped => ?_⟩
      cases overlaps : race.overlaps event.attempt with
      | true => exact .overlapped turn overlaps
      | false =>
          refine (lost fun apart => overlapped ?_).step counted increments turn
          exact List.forall_mem_cons.mpr ⟨overlapping.trans overlaps, apart⟩
  have idle : ∀ i, race.reads i = none := by
    intro i
    cases reading : race.reads i with
    | none => rfl
    | some read => cases (Race.running reading).symm.trans (ended i)
  rw [← Race.endedCount_all ended]
  rcases kept.2 overlapped with behind | ⟨i, read, reading, _⟩ | ⟨i, _, _, reading, _⟩
  · exact_mod_cast behind
  · cases (idle i).symm.trans reading
  · simp [idle i] at reading

end Counters

end SpecterCloud.Foundations
