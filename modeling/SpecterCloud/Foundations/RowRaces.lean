import SpecterCloud.Foundations.Runs
import Mathlib.Data.Fintype.Card

/-! Attempts that race on one row. Each selects the row, chooses an update from what it read,
sends the update and commits it, and the steps of different attempts interleave. A SELECT sees
the latest committed row, and an UPDATE waits while another attempt holds the lock of the row.
-/

namespace SpecterCloud.Foundations

variable {Attempt Row : Type}

/-- How far an attempt has come. -/
inductive Phase (Row : Type)
  | waiting
  | selected (read : Row)
  | chosen (read : Row) (update : Row → Row)
  | updated (read version : Row)
  | committed
  | declined

/-- What an attempt between its SELECT and its end has read. -/
def Phase.inFlight : Phase Row → Option Row
  | .selected read => some read
  | .chosen read _ => some read
  | .updated read _ => some read
  | _ => none

def Phase.ended : Phase Row → Bool
  | .committed => true
  | .declined => true
  | _ => false

def Phase.holdsLock : Phase Row → Bool
  | .updated _ _ => true
  | _ => false

/-- The committed row, and the phase of each attempt. -/
structure Race (Attempt Row : Type) where
  row : Row
  phases : Attempt → Phase Row

/-- A race that nobody has joined. -/
def Race.initial (row : Row) : Race Attempt Row where
  row := row
  phases := fun _ => .waiting

/-- A step of an attempt with whether it is a SELECT while another attempt is in flight. -/
structure RaceEvent (Attempt : Type) where
  attempt : Attempt
  overlapping : Bool

section Steps

variable [DecidableEq Attempt]

def Race.moved (race : Race Attempt Row) (i : Attempt) (phase : Phase Row)
    : Race Attempt Row :=
  { race with phases := Function.update race.phases i phase }

variable [Fintype Attempt] (updateOf : Attempt → Row → Option (Row → Row))

/-- The next step of an attempt, if it has one and need not wait. -/
def Race.advance (race : Race Attempt Row) (i : Attempt) : Option (Race Attempt Row) :=
  match race.phases i with
  | .waiting => some (race.moved i (.selected race.row))
  | .selected read =>
      match updateOf i read with
      | none => some (race.moved i .declined)
      | some update => some (race.moved i (.chosen read update))
  | .chosen read update =>
      if ∃ j, (race.phases j).holdsLock then
        -- the UPDATE waits for the lock
        none
      else
        some (race.moved i (.updated read (update race.row)))
  | .updated _ version => some { race.moved i .committed with row := version }
  | .committed => none
  | .declined => none

/-- The next step of an attempt is a SELECT while another attempt is in flight. -/
def Race.overlaps (race : Race Attempt Row) (i : Attempt) : Bool :=
  match race.phases i with
  | .waiting => decide (∃ j, (race.phases j).inFlight.isSome)
  | _ => false

/-- Interleavings of the attempts on a row. -/
def Races (initial : Row) (history : List (RaceEvent Attempt)) (race : Race Attempt Row)
    : Prop :=
  Runs
    (fun _ race event after =>
      race.advance updateOf event.attempt = some after
      ∧ event.overlapping = race.overlaps event.attempt)
    (Race.initial initial) history race

/-- Every SELECT was made while no other attempt was in flight. -/
def Apart (history : List (RaceEvent Attempt)) : Prop :=
  ∀ event ∈ history, event.overlapping = false

instance (history : List (RaceEvent Attempt)) : Decidable (Apart history) :=
  inferInstanceAs (Decidable (∀ event ∈ history, event.overlapping = false))

/-- The run of a schedule, which has the latest step first. -/
def Race.play (initial : Row)
    : List Attempt → Option (List (RaceEvent Attempt) × Race Attempt Row)
  | [] => some ([], Race.initial initial)
  | i :: earlier => do
      let (history, race) ← Race.play initial earlier
      let after ← race.advance updateOf i
      return ({ attempt := i, overlapping := race.overlaps i } :: history, after)

/-- What an attempt that has read one version of the row makes of another. -/
def published (i : Attempt) (read latest : Row) : Row :=
  match updateOf i read with
  | none => latest
  | some update => update latest

/-- What an attempt makes of the row when it runs alone. -/
def effect (i : Attempt) (row : Row) : Row := published updateOf i row row

def Race.reads (race : Race Attempt Row) (i : Attempt) : Option Row := (race.phases i).inFlight

def Race.ended (race : Race Attempt Row) (i : Attempt) : Bool := (race.phases i).ended

/-- The number of attempts that have ended. -/
def Race.endedCount (race : Race Attempt Row) : Nat :=
  (Finset.univ.filter (fun i => race.ended i)).card

variable {updateOf} {initial : Row} {schedule : List Attempt}

/-- The run of a schedule is a race, by induction on the schedule. -/
theorem Race.play_races {history : List (RaceEvent Attempt)} {race : Race Attempt Row}
    (played : Race.play updateOf initial schedule = some (history, race))
    : Races updateOf initial history race := by
  induction schedule generalizing history race with
  | nil =>
      cases played
      exact .start
  | cons i earlier ih =>
      obtain ⟨⟨before, reached⟩, ran, advanced⟩ := Option.bind_eq_some_iff.mp played
      obtain ⟨after, stepped, ended⟩ := Option.bind_eq_some_iff.mp advanced
      cases ended
      exact .next (ih ran) ⟨stepped, rfl⟩

/-- What a schedule finds is found at the end of a race. -/
theorem Race.play_finds {found : List (RaceEvent Attempt) × Race Attempt Row → Bool}
    (checked : (Race.play updateOf initial schedule).any found = true)
    : ∃ history race, Races updateOf initial history race ∧ found (history, race) = true := by
  obtain ⟨⟨history, race⟩, played, finds⟩ := (Option.any_eq_true _ _).mp checked
  exact ⟨history, race, play_races played, finds⟩

end Steps

-----------------------------------------------------------------------------------------
-- What a step does
-----------------------------------------------------------------------------------------

section Moves

variable [DecidableEq Attempt]

/-- Everything that a step can do. -/
inductive Race.Moves (updateOf : Attempt → Row → Option (Row → Row))
    (race : Race Attempt Row) (i : Attempt) : Race Attempt Row → Prop
  | select (waiting : race.phases i = .waiting)
      : Race.Moves updateOf race i (race.moved i (.selected race.row))
  | decline {read : Row} (selected : race.phases i = .selected read)
      (declines : updateOf i read = none)
      : Race.Moves updateOf race i (race.moved i .declined)
  | choose {read : Row} {update : Row → Row} (selected : race.phases i = .selected read)
      (chosen : updateOf i read = some update)
      : Race.Moves updateOf race i (race.moved i (.chosen read update))
  | update {read : Row} {update : Row → Row} (chosen : race.phases i = .chosen read update)
      (free : ∀ j, (race.phases j).holdsLock = false)
      : Race.Moves updateOf race i (race.moved i (.updated read (update race.row)))
  | commit {read version : Row} (updated : race.phases i = .updated read version)
      : Race.Moves updateOf race i { race.moved i .committed with row := version }

@[simp]
theorem Race.moved_row (race : Race Attempt Row) (i : Attempt) (phase : Phase Row)
    : (race.moved i phase).row = race.row :=
  rfl

@[simp]
theorem Race.moved_phases (race : Race Attempt Row) (i j : Attempt) (phase : Phase Row)
    : (race.moved i phase).phases j = if j = i then phase else race.phases j := by
  simp [Race.moved, Function.update_apply]

variable {updateOf : Attempt → Row → Option (Row → Row)} {race after : Race Attempt Row}
  {i : Attempt}

/-- A step is one of the listed moves, by the phase of its attempt. -/
theorem Race.advance_moves [Fintype Attempt] (advanced : race.advance updateOf i = some after)
    : race.Moves updateOf i after := by
  unfold Race.advance at advanced
  cases phase : race.phases i with
  | waiting =>
      simp only [phase, Option.some.injEq] at advanced
      exact advanced ▸ .select phase
  | selected read =>
      cases chosen : updateOf i read with
      | none =>
          simp only [phase, chosen, Option.some.injEq] at advanced
          exact advanced ▸ .decline phase chosen
      | some update =>
          simp only [phase, chosen, Option.some.injEq] at advanced
          exact advanced ▸ .choose phase chosen
  | chosen read update =>
      by_cases held : ∃ j, (race.phases j).holdsLock
      · simp [phase, held] at advanced
      · simp only [phase, if_neg held, Option.some.injEq] at advanced
        have free : ∀ j, (race.phases j).holdsLock = false := by simpa using held
        exact advanced ▸ .update phase free
  | updated read version =>
      simp only [phase, Option.some.injEq] at advanced
      exact advanced ▸ .commit phase
  | committed => simp [phase] at advanced
  | declined => simp [phase] at advanced

/-- A phase remembers what was chosen, and holds an update of the committed row. -/
def Phase.Sound (updateOf : Attempt → Row → Option (Row → Row)) (i : Attempt) (row : Row)
    : Phase Row → Prop
  | .chosen read update => updateOf i read = some update
  | .updated read version => ∃ update, updateOf i read = some update ∧ version = update row
  | _ => True

/-- The phases are sound, and at most one attempt holds the lock. -/
structure Race.Sound (updateOf : Attempt → Row → Option (Row → Row)) (race : Race Attempt Row)
    : Prop where
  phases : ∀ i, (race.phases i).Sound updateOf i race.row
  locked : ∀ i j, (race.phases i).holdsLock → (race.phases j).holdsLock → i = j

/-- A move into a sound phase that takes the lock only when it is free. -/
theorem Race.Sound.moved (sound : race.Sound updateOf) {phase : Phase Row}
    (fits : phase.Sound updateOf i race.row)
    (free : phase.holdsLock → ∀ j, (race.phases j).holdsLock = false)
    : (race.moved i phase).Sound updateOf := by
  refine ⟨?_, ?_⟩
  · intro j
    by_cases same : j = i
    · simpa [same] using fits
    · simpa [same] using sound.phases j
  · intro j k holds holdsToo
    by_cases first : j = i <;> by_cases second : k = i
    · exact first.trans second.symm
    · simp only [moved_phases, if_pos first, if_neg second] at holds holdsToo
      simp [free holds k] at holdsToo
    · simp only [moved_phases, if_neg first, if_pos second] at holds holdsToo
      simp [free holdsToo j] at holds
    · simp only [moved_phases, if_neg first, if_neg second] at holds holdsToo
      exact sound.locked j k holds holdsToo

omit [DecidableEq Attempt] in
/-- While nobody holds the lock the row can be replaced. -/
theorem Race.Sound.replaced (sound : race.Sound updateOf)
    (free : ∀ j, (race.phases j).holdsLock = false) (version : Row)
    : ({ race with row := version } : Race Attempt Row).Sound updateOf := by
  refine ⟨fun j => ?_, sound.locked⟩
  have fits := sound.phases j
  have unlocked := free j
  show (race.phases j).Sound updateOf j version
  cases phase : race.phases j with
  | updated read written => simp [phase, Phase.holdsLock] at unlocked
  | chosen read update =>
      rw [phase] at fits
      exact fits
  | _ => trivial

/-- Every move keeps the race sound. -/
theorem Race.Sound.step (sound : race.Sound updateOf) (moves : race.Moves updateOf i after)
    : after.Sound updateOf := by
  cases moves with
  | select waiting => exact sound.moved trivial nofun
  | decline selected declines => exact sound.moved trivial nofun
  | choose selected chosen => exact sound.moved chosen nofun
  | update phase free =>
      have chosen := sound.phases i
      rw [phase] at chosen
      exact sound.moved ⟨_, chosen, rfl⟩ (fun _ => free)
  | commit phase =>
      have released : ∀ j, ((race.moved i .committed).phases j).holdsLock = false := by
        intro j
        by_cases same : j = i
        · simp [same, Phase.holdsLock]
        · rw [moved_phases, if_neg same, Bool.eq_false_iff]
          exact fun holds => same (sound.locked j i holds (by rw [phase]; rfl))
      have moved : (race.moved i .committed).Sound updateOf := sound.moved trivial nofun
      exact moved.replaced released _

/-- What a step means for the row, for the reads in flight and for the ended attempts. -/
inductive Race.Turn (updateOf : Attempt → Row → Option (Row → Row)) (race : Race Attempt Row)
    (i : Attempt) (after : Race Attempt Row)
    : Prop
  | joins (waiting : race.phases i = .waiting) (row : after.row = race.row)
      (reads : after.reads = Function.update race.reads i (some race.row))
      (ended : after.ended = race.ended)
  | onward (started : race.phases i ≠ .waiting) (row : after.row = race.row)
      (reads : after.reads = race.reads) (ended : after.ended = race.ended)
  | ends {read : Row} (reading : race.reads i = some read)
      (row : after.row = published updateOf i read race.row)
      (reads : after.reads = Function.update race.reads i none)
      (ended : after.ended = Function.update race.ended i true)

theorem Race.moved_reads (race : Race Attempt Row) (i : Attempt) (phase : Phase Row)
    : (race.moved i phase).reads = Function.update race.reads i phase.inFlight := by
  funext j
  by_cases same : j = i <;> simp [Race.reads, same]

theorem Race.moved_ended (race : Race Attempt Row) (i : Attempt) (phase : Phase Row)
    : (race.moved i phase).ended = Function.update race.ended i phase.ended := by
  funext j
  by_cases same : j = i <;> simp [Race.ended, same]

/-- A move that changes neither what the attempt has read nor whether it has ended. -/
theorem Race.Turn.kept {phase : Phase Row} (started : race.phases i ≠ .waiting)
    (reads : phase.inFlight = race.reads i) (ended : phase.ended = race.ended i)
    : race.Turn updateOf i (race.moved i phase) :=
  .onward started rfl (by rw [moved_reads, reads, Function.update_eq_self])
    (by rw [moved_ended, ended, Function.update_eq_self])

/-- Every move of a sound race is a turn. -/
theorem Race.Sound.turn (sound : race.Sound updateOf) (moves : race.Moves updateOf i after)
    : race.Turn updateOf i after := by
  have fits := sound.phases i
  cases moves with
  | select waiting =>
      refine .joins waiting rfl (moved_reads _ _ _) ?_
      have running : (Phase.selected race.row).ended = race.ended i :=
        (congrArg Phase.ended waiting).symm
      rw [moved_ended, running, Function.update_eq_self]
  | decline selected declines =>
      have reading : race.reads i = some _ := congrArg Phase.inFlight selected
      refine .ends reading ?_ (moved_reads _ _ _) (moved_ended _ _ _)
      rw [published, declines]
      rfl
  | choose selected chosen =>
      exact .kept (by simp [selected]) (congrArg Phase.inFlight selected).symm
        (congrArg Phase.ended selected).symm
  | update chosen free =>
      exact .kept (by simp [chosen]) (congrArg Phase.inFlight chosen).symm
        (congrArg Phase.ended chosen).symm
  | commit updated =>
      rw [updated] at fits
      obtain ⟨update, chosen, written⟩ := fits
      have reading : race.reads i = some _ := congrArg Phase.inFlight updated
      refine .ends reading ?_ (moved_reads _ _ _) (moved_ended _ _ _)
      rw [published, chosen]
      exact written

end Moves

section Ends

variable {race after : Race Attempt Row} {i : Attempt}

/-- An attempt in flight has not ended. -/
theorem Race.running {read : Row} (reading : race.reads i = some read)
    : race.ended i = false := by
  unfold Race.reads at reading
  unfold Race.ended
  cases phase : race.phases i <;> simp [phase, Phase.inFlight] at reading <;> rfl

/-- What is read after an end was read before it. -/
theorem Race.reads_ended [DecidableEq Attempt] {other : Row} {j : Attempt}
    (reads : after.reads = Function.update race.reads i none)
    (later : after.reads j = some other)
    : race.reads j = some other ∧ j ≠ i := by
  rw [reads, Function.update_apply] at later
  by_cases same : j = i
  · rw [if_pos same] at later
    cases later
  · rw [if_neg same] at later
    exact ⟨later, same⟩

variable [Fintype Attempt]

theorem Race.endedCount_congr (ended : after.ended = race.ended)
    : after.endedCount = race.endedCount := by
  rw [Race.endedCount, ended]
  rfl

/-- The end of an attempt in flight is one more end. -/
theorem Race.endedCount_ends [DecidableEq Attempt] {read : Row}
    (reading : race.reads i = some read) (ended : after.ended = Function.update race.ended i true)
    : after.endedCount = race.endedCount + 1 := by
  have added
      : Finset.univ.filter (fun j => after.ended j = true)
        = insert i (Finset.univ.filter (fun j => race.ended j = true)) := by
    ext j
    rw [ended]
    by_cases same : j = i <;> simp [same]
  rw [Race.endedCount, added, Finset.card_insert_of_notMem (by simp [running reading])]
  rfl

/-- While an attempt is in flight not everyone has ended. -/
theorem Race.endedCount_lt {read : Row} (reading : race.reads i = some read)
    : race.endedCount < Fintype.card Attempt := by
  refine Finset.card_lt_card (Finset.ssubset_univ_iff.mpr ?_)
  intro everyone
  have ended := Finset.mem_univ i
  rw [← everyone, Finset.mem_filter, running reading] at ended
  cases ended.2

/-- Once everyone has ended, everyone is counted as ended. -/
theorem Race.endedCount_all (ended : ∀ i, race.ended i = true)
    : race.endedCount = Fintype.card Attempt := by
  simp [Race.endedCount, ended]

end Ends

-----------------------------------------------------------------------------------------
-- Races without overlaps are serial
-----------------------------------------------------------------------------------------

section Serial

variable [DecidableEq Attempt] {updateOf : Attempt → Row → Option (Row → Row)}
  {initial : Row} {race after : Race Attempt Row} {order : List Attempt} {i : Attempt}

/-- The row is what the ended attempts, the latest first, make of it one after another, and the
one attempt in flight has read it.
-/
structure Race.Serial (updateOf : Attempt → Row → Option (Row → Row)) (initial : Row)
    (race : Race Attempt Row) (order : List Attempt)
    : Prop where
  nodup : order.Nodup
  complete : ∀ i, i ∈ order ↔ race.ended i = true
  row : race.row = order.foldr (effect updateOf) initial
  fresh : ∀ i read, race.reads i = some read → read = race.row
  alone : ∀ i j, (race.reads i).isSome → (race.reads j).isSome → i = j

/-- A SELECT that overlaps with nobody. -/
theorem Race.Serial.joined (serial : race.Serial updateOf initial order)
    (row : after.row = race.row)
    (reads : after.reads = Function.update race.reads i (some race.row))
    (ended : after.ended = race.ended) (free : ∀ j, race.reads j = none)
    : after.Serial updateOf initial order := by
  have reader : ∀ {j read}, after.reads j = some read → j = i ∧ read = race.row := by
    intro j read reading
    rw [reads, Function.update_apply] at reading
    by_cases same : j = i
    · rw [if_pos same] at reading
      exact ⟨same, (Option.some.inj reading).symm⟩
    · rw [if_neg same, free j] at reading
      cases reading
  refine ⟨serial.nodup, ?_, row.trans serial.row, ?_, ?_⟩
  · intro j
    rw [ended]
    exact serial.complete j
  · intro j read reading
    exact row ▸ (reader reading).2
  · intro j k first second
    obtain ⟨_, firstRead⟩ := Option.isSome_iff_exists.mp first
    obtain ⟨_, secondRead⟩ := Option.isSome_iff_exists.mp second
    exact (reader firstRead).1.trans (reader secondRead).1.symm

/-- The end of the attempt in flight. -/
theorem Race.Serial.finished (serial : race.Serial updateOf initial order) {read : Row}
    (reading : race.reads i = some read) (row : after.row = published updateOf i read race.row)
    (reads : after.reads = Function.update race.reads i none)
    (ended : after.ended = Function.update race.ended i true)
    : after.Serial updateOf initial (i :: order) := by
  have fresh := serial.fresh i read reading
  have free : ∀ j, after.reads j = none := by
    intro j
    rw [reads, Function.update_apply]
    by_cases same : j = i
    · rw [if_pos same]
    · rw [if_neg same, ← Option.not_isSome_iff_eq_none]
      exact fun joined => same (serial.alone j i joined (by simp [reading]))
  refine ⟨?_, ?_, ?_, ?_, ?_⟩
  · refine List.nodup_cons.mpr ⟨?_, serial.nodup⟩
    rw [serial.complete, running reading]
    exact Bool.false_ne_true
  · intro j
    rw [List.mem_cons, serial.complete, ended, Function.update_apply]
    by_cases same : j = i <;> simp [same]
  · rw [row, fresh, List.foldr_cons, ← serial.row]
    rfl
  · intro j read reading
    cases (free j).symm.trans reading
  · intro j k joined
    simp [free j] at joined

/-- A step that is no overlapping SELECT keeps the race serial. -/
theorem Race.Serial.step [Fintype Attempt] (serial : race.Serial updateOf initial order)
    (turn : race.Turn updateOf i after) (apart : race.overlaps i = false)
    : ∃ order, after.Serial updateOf initial order := by
  cases turn with
  | joins waiting row reads ended =>
      have free : ∀ j, race.reads j = none := by
        simpa [Race.overlaps, waiting, Race.reads] using apart
      exact ⟨order, serial.joined row reads ended free⟩
  | onward started row reads ended =>
      refine ⟨order, serial.nodup, ?_, row.trans serial.row, ?_, ?_⟩
      · rw [ended]
        exact serial.complete
      · rw [row, reads]
        exact serial.fresh
      · rw [reads]
        exact serial.alone
  | ends reading row reads ended => exact ⟨i :: order, serial.finished reading row reads ended⟩

end Serial

section Runs

variable [DecidableEq Attempt] [Fintype Attempt]
  {updateOf : Attempt → Row → Option (Row → Row)} {initial : Row}
  {race after : Race Attempt Row} {history : List (RaceEvent Attempt)}

/-- Every race is sound. -/
theorem Races.sound (ran : Races updateOf initial history race) : race.Sound updateOf := by
  refine Runs.invariant (fun _ race => race.Sound updateOf) ?_ ?_ ran
  · exact ⟨fun _ => trivial, fun _ _ => nofun⟩
  · intro history race event after _ sound stepped
    exact sound.step (Race.advance_moves stepped.1)

/-- Without overlaps the race has the outcome of running the ended attempts in some order. -/
theorem Races.serial (ran : Races updateOf initial history race) (apart : Apart history)
    : ∃ order, race.Serial updateOf initial order := by
  refine Runs.invariant
    (fun history race => Apart history → ∃ order, race.Serial updateOf initial order)
    ?_ ?_ ran apart
  · exact fun _ => ⟨[], List.nodup_nil, by simp [Race.ended, Race.initial, Phase.ended], rfl,
      nofun, nofun⟩
  · intro history race event after ran serial stepped apart
    obtain ⟨advanced, overlapping⟩ := stepped
    obtain ⟨order, serial⟩ := serial (fun old earlier => apart old (.tail _ earlier))
    have turn := (Races.sound ran).turn (Race.advance_moves advanced)
    exact serial.step turn (overlapping ▸ apart event (.head _))

/-- The order of a serial race has each ended attempt once. -/
theorem Race.Serial.length {order : List Attempt} (serial : race.Serial updateOf initial order)
    : order.length = race.endedCount := by
  rw [← List.toFinset_card_of_nodup serial.nodup, Race.endedCount]
  congr 1
  ext i
  simp [serial.complete]

end Runs

end SpecterCloud.Foundations
