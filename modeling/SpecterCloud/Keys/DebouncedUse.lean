import SpecterCloud.Foundations.DebouncedClocks
import SpecterCloud.Keys.ConcurrentMints
import Mathlib.Algebra.Order.Group.Int

/-! Concurrent verifications of drone API keys. Each one that succeeds sends one conditional
UPDATE of `last_used_at`, so that the column is a debounced clock which the verifications touch
with their own start times, in the order of their commits.
-/

namespace SpecterCloud.Auth

open SpecterCloud.Foundations
open SpecterCloud.Models

/-- `last_used_at` of the key with the id, if it is stored. -/
def lastUsed (id : UUID) (db : FleetTables) : Option (Option Instant) :=
  (findBy DroneApiKey.id id db.droneApiKeys).map DroneApiKey.lastUsedAt

/-- The key that was never used. -/
def unused (key : DroneApiKey) : DroneApiKey := { key with lastUsedAt := none }

/-- The tables in which no key was ever used. -/
def forgetUses (db : FleetTables) : FleetTables :=
  db.rewriteKeys (fun _ => true) unused (fun _ => rfl) (fun _ => rfl)

/-- The time between two writes of `last_used_at`. -/
def debounceInterval : Int := seconds lastUsedDebounceSeconds

/-- A verification: the raw key, `now()` of its transaction, and the locks of its UPDATE, which
locks the row of the key exactly where it matches.
-/
structure UseCall where
  raw : String
  now : Instant
  locks : UUID → List (Lock FleetKey)

/-- The UPDATE of `last_used_at`. -/
def touchStatement (call : UseCall) (id : UUID) : Statement FleetTables FleetKey Raised where
  locks := call.locks id
  run db := .ok (db.touchKey id call.now (call.now - debounceInterval))

/-- The steps of a verification. -/
abbrev UseSteps := Transaction FleetTables FleetKey Raised (Option Drone)

/-- `verify_api_key` from its query on. -/
def verifyRows (sha256Hex : String → HexDigest) (call : UseCall) (db : FleetTables) : UseSteps :=
  match matchedKey sha256Hex call.raw db with
  | none => .leave (.ok none)
  | some (apiKey, drone) => .execute (touchStatement call apiKey.id) (.commit (some drone))

/-- `verify_api_key`, as the steps of a transaction. -/
def verifySteps (sha256Hex : String → HexDigest) (call : UseCall) : UseSteps :=
  match parseKey call.raw with
  | none => .leave (.ok none)
  | some _ => .select (verifyRows sha256Hex call)

/-- A verification takes its steps. -/
theorem verifyApiKey_steps (sha256Hex : String → HexDigest) (call : UseCall)
    : (verifyApiKey sha256Hex call.now call.raw).TakesSteps (verifySteps sha256Hex call) := by
  unfold verifySteps
  cases parsed : parseKey call.raw with
  | none =>
      simp only [verifyApiKey, parsed]
      exact .pure none
  | some parts =>
      obtain ⟨keyPrefix, secret⟩ := parts
      rw [verifyApiKey_parsed sha256Hex call.now parsed]
      refine .selected ?_ ?_
      · intro db rows answered
        rw [verifyRows, matchedKey_parsed parsed answered]
        cases matchedRow sha256Hex call.raw rows with
        | none => exact .pure none
        | some row => exact .executed (touchStatement call row.1.id) (.committed (some row.2))
      · intro db error failed
        obtain ⟨rows, answered, _⟩ := db.keysByPrefix_storable (parseKey_storable parsed)
        cases failed.symm.trans answered

/-- The first match of a raw key, by the id of the key. -/
def matchedId (sha256Hex : String → HexDigest) (raw : String) (db : FleetTables)
    : Option (UUID × Drone) :=
  (matchedKey sha256Hex raw db).map (fun (apiKey, drone) => (apiKey.id, drone))

-----------------------------------------------------------------------------------------
-- What a touch leaves
-----------------------------------------------------------------------------------------

section Touches

variable {sha256Hex : String → HexDigest} {raw : String} {db other : FleetTables}

/-- A touch is forgotten with all uses. -/
theorem forgetUses_touchKey (id : UUID) (now staleBefore : Instant) (db : FleetTables)
    : forgetUses (db.touchKey id now staleBefore) = forgetUses db := by
  have same
      : rewriteWhere (fun _ => true) unused (db.touchKey id now staleBefore).droneApiKeys
        = rewriteWhere (fun _ => true) unused db.droneApiKeys := by
    simp only [FleetTables.touchKey, FleetTables.rewriteKeys, rewriteWhere, List.map_map]
    apply List.map_congr_left
    intro key _
    simp only [Function.comp_apply, if_true]
    split <;> rfl
  simp only [forgetUses, FleetTables.rewriteKeys, same]
  rfl

/-- `last_used_at` is a debounced clock. -/
theorem lastUsed_touchKey (id touched : UUID) (now : Instant) (db : FleetTables)
    : lastUsed id (db.touchKey touched now (now - debounceInterval))
      = if touched = id then
          (lastUsed id db).map (fun stored => debounce debounceInterval stored now)
        else
          lastUsed id db := by
  have found
      : findBy DroneApiKey.id id (db.touchKey touched now (now - debounceInterval)).droneApiKeys
        = _ :=
    findBy_rewriteWhere (fun _ => rfl)
  rw [lastUsed, found, lastUsed, Option.map_map]
  cases held : findBy DroneApiKey.id id db.droneApiKeys with
  | none => simp
  | some key =>
      have same : key.id = id := (findBy_sound held).2
      simp only [Option.map_some, Function.comp_apply, same, debounce, eq_comm (a := id)]
      by_cases hit : touched = id
      · simp only [hit, decide_true, Bool.true_and, if_true]
        split <;> rfl
      · simp [hit]

/-- The join has the same keys, never used, and the same drones. -/
theorem keysByPrefix_forgetUses (db : FleetTables) (keyPrefix : String)
    : (forgetUses db).keysByPrefix keyPrefix
      = (db.keysByPrefix keyPrefix).map (List.map (Prod.map unused id)) := by
  unfold FleetTables.keysByPrefix
  split
  · have same : (forgetUses db).droneApiKeys = db.droneApiKeys.map unused := by
      simp [forgetUses, FleetTables.rewriteKeys, rewriteWhere]
    rw [same, List.filter_map, List.filterMap_map, Except.map, List.map_filterMap]
    congr 1
    apply List.filterMap_congr
    intro key _
    simp only [Function.comp_apply, Option.map_map]
    rfl
  · rfl

theorem matchedId_forgetUses (sha256Hex : String → HexDigest) (raw : String) (db : FleetTables)
    : matchedId sha256Hex raw (forgetUses db) = matchedId sha256Hex raw db := by
  unfold matchedId matchedKey
  cases parseKey raw with
  | none => rfl
  | some parts =>
      obtain ⟨keyPrefix, secret⟩ := parts
      simp only [Option.bind_some, keysByPrefix_forgetUses]
      cases db.keysByPrefix keyPrefix with
      | error error => rfl
      | ok rows =>
          simp only [Except.map, List.find?_map, Function.comp_def, Prod.map_fst,
            Option.filter_map]
          rw [Option.map_map]
          rfl

/-- Tables that differ in uses only have the same matches. -/
theorem matchedId_same (same : forgetUses db = forgetUses other)
    : matchedId sha256Hex raw db = matchedId sha256Hex raw other := by
  rw [← matchedId_forgetUses, same, matchedId_forgetUses]

/-- A verification whose match is known touches that key, or ends. -/
theorem verifyRows_matchedId (call : UseCall)
    : verifyRows sha256Hex call db
      = match matchedId sha256Hex call.raw db with
        | none => .leave (.ok none)
        | some (id, drone) => .execute (touchStatement call id) (.commit (some drone)) := by
  unfold verifyRows matchedId
  cases matchedKey sha256Hex call.raw db <;> rfl

end Touches

-----------------------------------------------------------------------------------------
-- Verifications under way
-----------------------------------------------------------------------------------------

/-- The state of a server of verifications. -/
abbrev UseServer (n : Nat) := Server (Fin n) FleetTables FleetKey Raised (Option Drone)

/-- How far a verification can have come, by the key and the drone that it matches. -/
inductive UsePhase (sha256Hex : String → HexDigest) (call : UseCall)
    (matched : Option (UUID × Drone))
    : Progress FleetTables FleetKey Raised (Option Drone) → Prop
  | start : UsePhase sha256Hex call matched (.running [] (verifySteps sha256Hex call))
  | leaving (none_ : matched = none)
      : UsePhase sha256Hex call matched (.running [] (.leave (.ok none)))
  | touching {id : UUID} {drone : Drone} (found : matched = some (id, drone))
      : UsePhase sha256Hex call matched
          (.running [] (.execute (touchStatement call id) (.commit (some drone))))
  | touched {id : UUID} {drone : Drone} (found : matched = some (id, drone))
      : UsePhase sha256Hex call matched
          (.running [touchStatement call id] (.commit (some drone)))
  | committed {id : UUID} {drone : Drone} (found : matched = some (id, drone))
      : UsePhase sha256Hex call matched
          (.committed [touchStatement call id] (some drone))
  | ended (none_ : matched = none) : UsePhase sha256Hex call matched (.ended (.ok none))

section Phases

variable {sha256Hex : String → HexDigest} {call : UseCall} {matched : Option (UUID × Drone)}
  {sent : List (Statement FleetTables FleetKey Raised)} {rest : UseSteps} {db : FleetTables}

/-- The one query comes first, and it leads to the match. -/
theorem UsePhase.queried {next : FleetTables → UseSteps}
    (phase : UsePhase sha256Hex call matched (.running sent (.select next)))
    (same : matchedId sha256Hex call.raw db = matched)
    : sent = [] ∧ UsePhase sha256Hex call matched (.running [] (next db)) := by
  generalize reached : Progress.running sent (.select next) = progress at phase
  cases phase with
  | start =>
      unfold verifySteps at reached
      split at reached
      · cases reached
      cases reached
      refine ⟨rfl, ?_⟩
      rw [verifyRows_matchedId, same]
      cases found : matched with
      | none => exact .leaving rfl
      | some row => exact .touching rfl
  | leaving | touching | touched | committed | ended => cases reached

/-- The one statement is the touch of the match. -/
theorem UsePhase.executing {statement : Statement FleetTables FleetKey Raised}
    (phase : UsePhase sha256Hex call matched (.running sent (.execute statement rest)))
    : ∃ id drone,
        matched = some (id, drone) ∧ sent = [] ∧ statement = touchStatement call id
        ∧ rest = .commit (some drone) := by
  generalize reached : Progress.running sent (.execute statement rest) = progress at phase
  cases phase with
  | start =>
      unfold verifySteps at reached
      split at reached <;> cases reached
  | touching found =>
      cases reached
      exact ⟨_, _, found, rfl, rfl, rfl⟩
  | leaving | touched | committed | ended => cases reached

/-- A verification commits the touch of its match. -/
theorem UsePhase.committing {answer : Option Drone}
    (phase : UsePhase sha256Hex call matched (.running sent (.commit answer)))
    : ∃ id drone,
        matched = some (id, drone) ∧ sent = [touchStatement call id] ∧ answer = some drone := by
  generalize reached : Progress.running sent (.commit answer) = progress at phase
  cases phase with
  | start =>
      unfold verifySteps at reached
      split at reached <;> cases reached
  | touched found =>
      cases reached
      exact ⟨_, _, found, rfl, rfl⟩
  | leaving | touching | committed | ended => cases reached

/-- A verification that leaves has no match, and answers nothing. -/
theorem UsePhase.left {outcome : Except Raised (Option Drone)}
    (phase : UsePhase sha256Hex call matched (.running sent (.leave outcome)))
    (same : matchedId sha256Hex call.raw db = matched)
    : matched = none ∧ outcome = .ok none := by
  generalize reached : Progress.running sent (.leave outcome) = progress at phase
  cases phase with
  | start =>
      unfold verifySteps at reached
      split at reached
      · rename_i unparsed
        cases reached
        refine ⟨?_, rfl⟩
        rw [← same, matchedId, matchedKey, unparsed]
        rfl
      · cases reached
  | leaving none_ =>
      cases reached
      exact ⟨none_, rfl⟩
  | touching | touched | committed | ended => cases reached

/-- A verification that has a match and is over answers the drone. -/
theorem UsePhase.answered {progress : Progress FleetTables FleetKey Raised (Option Drone)}
    {id : UUID} {drone : Drone} {outcome : Except Raised (Option Drone)}
    (phase : UsePhase sha256Hex call (some (id, drone)) progress)
    (finished : progress.outcome = some outcome)
    : outcome = .ok (some drone) := by
  cases phase with
  | committed found =>
      cases found
      exact (Option.some.inj finished).symm
  | ended none_ => cases none_
  | start | leaving | touching | touched => cases finished

/-- A verification in flight that has sent anything has sent the touch of its match. -/
theorem UsePhase.sends {id : UUID} {drone : Drone}
    (phase : UsePhase sha256Hex call (some (id, drone)) (.running sent rest))
    (present : sent ≠ [])
    : sent = [touchStatement call id] := by
  generalize reached : Progress.running sent rest = progress at phase
  cases phase with
  | touched found =>
      cases found
      cases reached
      rfl
  | start | leaving | touching =>
      cases reached
      exact absurd rfl present
  | committed | ended => cases reached

end Phases

-----------------------------------------------------------------------------------------
-- Runs
-----------------------------------------------------------------------------------------

section Runs

variable {sha256Hex : String → HexDigest} {fleet : FleetTables} {n : Nat}
  {calls : Fin n → UseCall} {start server after : UseServer n} {i : Fin n} {id : UUID}

/-- The steps of the verifications. -/
def verifications (sha256Hex : String → HexDigest) (calls : Fin n → UseCall) (i : Fin n)
    : UseSteps :=
  verifySteps sha256Hex (calls i)

/-- The verifications are on their ways, and the tables have changed in uses only. -/
structure UsesUnderWay (sha256Hex : String → HexDigest) (fleet : FleetTables)
    (calls : Fin n → UseCall) (server : UseServer n)
    : Prop where
  tables : forgetUses server.db = forgetUses fleet
  phases
    : ∀ i,
        UsePhase sha256Hex (calls i) (matchedId sha256Hex (calls i).raw fleet)
          (server.progress i)

/-- The verification matches the key and is over. -/
def Used (sha256Hex : String → HexDigest) (fleet : FleetTables) (calls : Fin n → UseCall)
    (id : UUID) (server : UseServer n) (i : Fin n)
    : Prop :=
  (∃ drone, matchedId sha256Hex (calls i).raw fleet = some (id, drone))
  ∧ (server.progress i).outcome ≠ none

/-- Between two states, the verifications of the key that have ended have touched it, one after
another.
-/
def Touched (sha256Hex : String → HexDigest) (fleet : FleetTables) (calls : Fin n → UseCall)
    (id : UUID) (before after : UseServer n)
    : Prop :=
  ∃ touches : List (Fin n),
    lastUsed id after.db
      = (lastUsed id before.db).map
          (fun stored =>
            debounced debounceInterval stored (touches.map (fun i => (calls i).now)))
    ∧ ∀ i,
        Used sha256Hex fleet calls id after i
        ↔ Used sha256Hex fleet calls id before i ∨ i ∈ touches

/-- Where no verification of the key ends, it is not touched. -/
theorem Touched.nothing (kept : lastUsed id after.db = lastUsed id server.db)
    (same
      : ∀ i, Used sha256Hex fleet calls id after i ↔ Used sha256Hex fleet calls id server i)
    : Touched sha256Hex fleet calls id server after :=
  ⟨[], by simp [kept, debounced], fun i => by simp [same i]⟩

/-- Touches follow on touches. -/
theorem Touched.trans (first : Touched sha256Hex fleet calls id start server)
    (second : Touched sha256Hex fleet calls id server after)
    : Touched sha256Hex fleet calls id start after := by
  obtain ⟨touches, held, used⟩ := first
  obtain ⟨more, heldAfter, usedAfter⟩ := second
  refine ⟨touches ++ more, ?_, fun i => ?_⟩
  · rw [heldAfter, held, Option.map_map, List.map_append]
    simp only [debounced_append, Function.comp_def]
  · rw [usedAfter i, used i, List.mem_append, or_assoc]

/-- A move that ends no verification with a match touches no key. -/
theorem Touched.quiet (moves : server.Moves i after) (kept : after.db = server.db)
    (unended
      : matchedId sha256Hex (calls i).raw fleet = none
        ∨ (after.progress i).outcome = none)
    : Touched sha256Hex fleet calls id server after := by
  refine .nothing (by rw [kept]) fun j => ?_
  by_cases same : j = i
  · subst same
    obtain ⟨sent, rest, running⟩ := moves.running
    have unusedBefore : ¬ Used sha256Hex fleet calls id server j :=
      fun used => used.2 (by rw [running]; rfl)
    have unusedAfter : ¬ Used sha256Hex fleet calls id after j := by
      rintro ⟨⟨drone, found⟩, finished⟩
      rcases unended with none_ | running
      · cases none_.symm.trans found
      · exact finished running
    exact iff_of_false unusedAfter unusedBefore
  · rw [Used, Used, moves.others same]

/-- A commit touches the key of its match and no other. -/
theorem Touched.committed {touched : UUID} {drone : Drone} (moves : server.Moves i after)
    (found : matchedId sha256Hex (calls i).raw fleet = some (touched, drone))
    (wrote
      : after.db
        = server.db.touchKey touched (calls i).now ((calls i).now - debounceInterval))
    (finished : (after.progress i).outcome ≠ none)
    : Touched sha256Hex fleet calls id server after := by
  have others
      : ∀ j, j ≠ i
        → (Used sha256Hex fleet calls id after j ↔ Used sha256Hex fleet calls id server j) := by
    intro j apart
    rw [Used, Used, moves.others apart]
  have held := lastUsed_touchKey id touched (calls i).now server.db
  rw [← wrote] at held
  by_cases hit : touched = id
  · subst hit
    rw [if_pos rfl] at held
    refine ⟨[i], held, fun j => ?_⟩
    by_cases same : j = i
    · subst same
      exact iff_of_true ⟨⟨drone, found⟩, finished⟩ (.inr (.head _))
    · simp [others j same, same]
  · rw [if_neg hit] at held
    refine .nothing held fun j => ?_
    by_cases same : j = i
    · subst same
      have missed : ¬ ∃ drone, matchedId sha256Hex (calls j).raw fleet = some (id, drone) := by
        rintro ⟨other, found'⟩
        cases found.symm.trans found'
        exact hit rfl
      exact iff_of_false (fun used => missed used.1) (fun used => missed used.1)
    · exact others j same

/-- A move on the ways of its verification leaves all of them on theirs. -/
theorem UsesUnderWay.moved (underWay : UsesUnderWay sha256Hex fleet calls server)
    (moves : server.Moves i after) (tables : forgetUses after.db = forgetUses server.db)
    (phase
      : UsePhase sha256Hex (calls i) (matchedId sha256Hex (calls i).raw fleet)
          (after.progress i))
    : UsesUnderWay sha256Hex fleet calls after := by
  refine ⟨tables.trans underWay.tables, fun j => ?_⟩
  by_cases same : j = i
  · exact same ▸ phase
  · rw [moves.others same]
    exact underWay.phases j

/-- Every move leaves the verifications on their ways, and touches a key at a commit only. -/
theorem UsesUnderWay.step (underWay : UsesUnderWay sha256Hex fleet calls server)
    (moves : server.Moves i after) (id : UUID)
    : UsesUnderWay sha256Hex fleet calls after
      ∧ Touched sha256Hex fleet calls id server after := by
  have same
      : matchedId sha256Hex (calls i).raw server.db = matchedId sha256Hex (calls i).raw fleet :=
    matchedId_same underWay.tables
  have phase := underWay.phases i
  have taken := moves
  cases taken with
  | @select sent next reached =>
      rw [reached] at phase
      obtain ⟨rfl, queried⟩ := phase.queried same
      refine ⟨underWay.moved moves rfl ?_, .quiet moves rfl (.inr ?_)⟩
      · rw [Server.moved_self]
        exact queried
      · rw [Server.moved_self]
        rfl
  | @execute sent statement rest view reached free ran =>
      rw [reached] at phase
      obtain ⟨touched, drone, found, rfl, rfl, rfl⟩ := phase.executing
      refine ⟨underWay.moved moves rfl ?_, .quiet moves rfl (.inr ?_)⟩
      · rw [Server.moved_self]
        exact .touched found
      · rw [Server.moved_self]
        rfl
  | @refuse sent statement rest error reached ran =>
      rw [reached] at phase
      obtain ⟨touched, drone, found, rfl, rfl, rfl⟩ := phase.executing
      cases ran
  | @commit sent answer reached =>
      rw [reached] at phase
      obtain ⟨touched, drone, found, rfl, rfl⟩ := phase.committing
      have progress
          := server.moved_self i (.committed [touchStatement (calls i) touched] (some drone))
      refine ⟨underWay.moved moves (forgetUses_touchKey _ _ _ _) ?_, ?_⟩
      · exact progress.symm ▸ .committed found
      · refine .committed moves found rfl ?_
        rw [show Server.progress _ i = _ from progress]
        nofun
  | @leave sent outcome reached =>
      rw [reached] at phase
      obtain ⟨none_, rfl⟩ := phase.left same
      refine ⟨underWay.moved moves rfl ?_, .quiet moves rfl (.inl none_)⟩
      rw [Server.moved_self]
      exact .ended none_

/-- Along a run, the ended verifications of a key have touched it one after another. -/
theorem UsesUnderWay.run {later : List (Fin n)}
    (underWay : UsesUnderWay sha256Hex fleet calls start)
    (ran : Runs (Server.stepping Server.unguarded) start later server) (id : UUID)
    : UsesUnderWay sha256Hex fleet calls server
      ∧ Touched sha256Hex fleet calls id start server := by
  refine Runs.invariant
    (fun _ server => UsesUnderWay sha256Hex fleet calls server
      ∧ Touched sha256Hex fleet calls id start server)
    ⟨underWay, .nothing rfl fun _ => .rfl⟩ ?_ ran
  intro _ server i after _ ⟨underWay, touched⟩ stepped
  obtain ⟨underWayAfter, touchedOn⟩ := underWay.step (Server.advance_moves stepped.1) id
  exact ⟨underWayAfter, touched.trans touchedOn⟩

/-- A verification of a key that is over has answered its drone. -/
theorem UsesUnderWay.answered (underWay : UsesUnderWay sha256Hex fleet calls server)
    {drone : Drone} (found : matchedId sha256Hex (calls i).raw fleet = some (id, drone))
    {outcome : Except Raised (Option Drone)}
    (finished : (server.progress i).outcome = some outcome)
    : outcome = .ok (some drone) := by
  have phase := underWay.phases i
  rw [found] at phase
  exact phase.answered finished

/-- A verification of a key that has sent its UPDATE sees the clock as touched by it. -/
theorem UsesUnderWay.sees (underWay : UsesUnderWay sha256Hex fleet calls server)
    {drone : Drone} (found : matchedId sha256Hex (calls i).raw fleet = some (id, drone))
    {sent : List (Statement FleetTables FleetKey Raised)} {rest : UseSteps}
    (running : server.progress i = .running sent rest) (present : sent ≠ [])
    {stored : Option Instant} (held : lastUsed id server.db = some stored)
    : lastUsed id (overlay sent server.db)
      = some (debounce debounceInterval stored (calls i).now) := by
  have phase := underWay.phases i
  rw [found, running] at phase
  obtain rfl := phase.sends present
  have seen := lastUsed_touchKey id id (calls i).now server.db
  rwa [if_pos rfl, held, Option.map_some] at seen

/-- Verifications start on their ways. -/
theorem usesUnderWay_initial (sha256Hex : String → HexDigest) (fleet : FleetTables)
    (calls : Fin n → UseCall)
    : UsesUnderWay sha256Hex fleet calls
        (Server.initial fleet (verifications sha256Hex calls)) :=
  ⟨rfl, fun _ => .start⟩

/-- A stored key is found with its last use. -/
theorem lastUsed_stored {key : DroneApiKey} (stored : key ∈ fleet.droneApiKeys)
    : lastUsed key.id fleet = some key.lastUsedAt := by
  rw [lastUsed, (findBy_eq_some_iff fleet.droneApiKeyIds).mpr ⟨stored, rfl⟩]
  rfl

/-- A match by its id is the match of the key that is stored under the id. -/
theorem matchedId_eq_some_iff {key : DroneApiKey} (stored : key ∈ fleet.droneApiKeys)
    {raw : String} {drone : Drone}
    : matchedId sha256Hex raw fleet = some (key.id, drone)
      ↔ matchedKey sha256Hex raw fleet = some (key, drone) := by
  unfold matchedId
  constructor
  · intro found
    obtain ⟨⟨other, owner⟩, matched, same⟩ := Option.map_eq_some_iff.mp found
    obtain ⟨sameId, rfl⟩ := Prod.mk.inj same
    have storedOther := (matchedKey_authenticates matched).stored
    obtain rfl := eq_of_key_eq fleet.droneApiKeyIds storedOther stored sameId
    exact matched
  · intro matched
    rw [matched]
    rfl

/-- The last use of a key is a debounced clock, which the ended verifications of the key have
touched.
-/
theorem lastUsed_run {key : DroneApiKey} (stored : key ∈ fleet.droneApiKeys)
    {history : List (Fin n)}
    (ran
      : Interleavings Server.unguarded (verifications sha256Hex calls) fleet history server)
    : ∃ touches : List (Fin n),
        lastUsed key.id server.db
          = some
              (debounced debounceInterval key.lastUsedAt
                (touches.map (fun i => (calls i).now)))
        ∧ ∀ i, i ∈ touches ↔ Used sha256Hex fleet calls key.id server i := by
  obtain ⟨_, touches, held, used⟩ :=
    (usesUnderWay_initial sha256Hex fleet calls).run ran key.id
  refine ⟨touches, ?_, fun i => ?_⟩
  · rw [held]
    exact congrArg (Option.map _) (lastUsed_stored stored)
  · rw [used i, or_iff_right]
    exact fun used => used.2 rfl

theorem debounceInterval_nonneg : 0 ≤ debounceInterval := by decide

end Runs

/-- Concurrent verifications, in every run and in whatever order they start and commit. Between
any two states of a run, `last_used_at` of a key stays or comes to be more than the debounce
interval later. A verification of the key that is over has answered its drone, and from then on
the column is at most the interval before its start; so it is in what the verification itself
sees once it has sent its UPDATE. What is stored was stored at the start, or is the start of a
verification of the key that is over.
-/
theorem lastUsedAt_debounced (sha256Hex : String → HexDigest) (fleet : FleetTables)
    (key : DroneApiKey) (stored : key ∈ fleet.droneApiKeys) (n : Nat) (calls : Fin n → UseCall)
    (earlier : List (Fin n)) (middle : UseServer n)
    (ran
      : Interleavings Server.unguarded (verifications sha256Hex calls) fleet earlier middle)
    (later : List (Fin n)) (server : UseServer n)
    (goesOn : Runs (Server.stepping Server.unguarded) middle later server)
    : ∃ before after,
        lastUsed key.id middle.db = some before
        ∧ lastUsed key.id server.db = some after
        ∧ Climbs debounceInterval before after
        ∧ (∀ i drone,
            matchedKey sha256Hex (calls i).raw fleet = some (key, drone)
            → (∀ outcome,
                (middle.progress i).outcome = some outcome
                → outcome = .ok (some drone) ∧ Covers debounceInterval after (calls i).now)
              ∧ ∀ sent rest,
                  middle.progress i = .running sent rest → sent ≠ []
                  → ∃ seen,
                      lastUsed key.id (overlay sent middle.db) = some seen
                      ∧ Covers debounceInterval seen (calls i).now)
        ∧ (after = key.lastUsedAt
            ∨ ∃ i drone,
                matchedKey sha256Hex (calls i).raw fleet = some (key, drone)
                ∧ (server.progress i).outcome = some (.ok (some drone))
                ∧ after = some (calls i).now) := by
  have forward := debounceInterval_nonneg
  have starts := usesUnderWay_initial sha256Hex fleet calls
  have underWay := (starts.run ran key.id).1
  obtain ⟨touches, held, used⟩ := lastUsed_run stored ran
  obtain ⟨_, more, heldOn, _⟩ := underWay.run goesOn key.id
  rw [held, Option.map_some] at heldOn
  refine ⟨_, _, held, heldOn, debounced_climbs forward _ _, ?_, ?_⟩
  · intro i drone matched
    have found := (matchedId_eq_some_iff stored).mpr matched
    refine ⟨?_, ?_⟩
    · intro outcome finished
      refine ⟨underWay.answered found finished, ?_⟩
      have touched : i ∈ touches := (used i).mpr ⟨⟨drone, found⟩, finished ▸ nofun⟩
      have touchedAt := List.mem_map_of_mem (f := fun i => (calls i).now) touched
      exact (debounced_covers forward touchedAt).climbs forward (debounced_climbs forward _ _)
    · intro sent rest running present
      exact ⟨_, underWay.sees found running present held, debounce_covers forward _ _⟩
  · obtain ⟨all, heldAll, usedAll⟩ := lastUsed_run stored (ran.append goesOn)
    have underWayLast := (starts.run (ran.append goesOn) key.id).1
    rw [heldAll] at heldOn
    rw [← Option.some.inj heldOn]
    rcases debounced_source debounceInterval key.lastUsedAt
        (all.map (fun i => (calls i).now)) with kept | ⟨now, touched, written⟩
    · exact .inl kept
    · obtain ⟨i, member, rfl⟩ := List.mem_map.mp touched
      obtain ⟨⟨drone, found⟩, finished⟩ := (usedAll i).mp member
      obtain ⟨outcome, finished⟩ := Option.ne_none_iff_exists'.mp finished
      refine .inr ⟨i, drone, (matchedId_eq_some_iff stored).mp found, ?_, written⟩
      rw [finished, underWayLast.answered found finished]

/-- The second drone's key. -/
def sampleUsedKey : DroneApiKey := sampleKey 11 3 "sk_drone_0a1b2c3d_b" none

theorem sampleUsedKey_ids : ([sampleUsedKey].map DroneApiKey.id).Nodup := List.nodup_singleton _

theorem sampleUsedKey_drones : ∀ key ∈ [sampleUsedKey], key.droneId ∈ [(2 : UUID), 3] :=
  List.forall_mem_singleton.mpr (.tail _ (.head _))

/-- Two drones, the second one with a key. -/
def sampleUsedFleet : FleetTables :=
  sampleFleet [sampleUsedKey] sampleUsedKey_ids sampleUsedKey_drones

/-- A verification of the key, which locks the row that it updates. -/
def sampleUse (now : Instant) : UseCall where
  raw := "sk_drone_0a1b2c3d_b"
  now
  locks id := [⟨.droneApiKey id, true⟩]

/-- Verifications of one key that start out of order. -/
def sampleUses (i : Fin 3) : UseCall :=
  match i with
  | 0 => sampleUse (seconds 100)
  | 1 => sampleUse (seconds 30)
  | 2 => sampleUse (seconds 161)

/-- A verification that started before the one that it commits after writes nothing, and one
that started 61 s after what is stored writes its start.
-/
theorem sampleUses_debounced
    : ∃ earlier middle later server,
        Interleavings Server.unguarded (verifications sampleSha256Hex sampleUses)
            sampleUsedFleet earlier middle
        ∧ Runs (Server.stepping Server.unguarded) middle later server
        ∧ lastUsed 11 middle.db = some (some (seconds 100))
        ∧ lastUsed 11 server.db = some (some (seconds 161))
        ∧ Climbs debounceInterval (some (seconds 100)) (some (seconds 161))
        ∧ Covers debounceInterval (some (seconds 161)) (seconds 30) := by
  have checked
      : (Server.play (fun _ _ => true)
          (.initial sampleUsedFleet (verifications sampleSha256Hex sampleUses))
          [1, 1, 0, 0, 1, 0]).any
          (fun middle =>
            decide
              (lastUsed 11 middle.db = some (some (seconds 100))
                ∧ (middle.progress 1).outcome = some (.ok (some ⟨3, "relay", 1, true⟩)))
            && (Server.play (fun _ _ => true) middle [2, 2, 2]).any
                (fun server => decide (lastUsed 11 server.db = some (some (seconds 161)))))
        = true := by
    decide
  obtain ⟨middle, ran, found⟩ := Server.play_finds (fun _ _ _ => trivial) checked
  obtain ⟨reached, foundLater⟩ := Bool.and_eq_true_iff.mp found
  obtain ⟨heldFirst, finished⟩ := of_decide_eq_true reached
  obtain ⟨server, goesOn, foundLast⟩
      : ∃ server,
          Runs (Server.stepping Server.unguarded) middle [2, 2, 2] server
          ∧ decide (lastUsed 11 server.db = some (some (seconds 161))) = true :=
    Server.play_finds (fun _ _ _ => trivial) foundLater
  have heldLast := of_decide_eq_true foundLast
  have matched
      : matchedKey sampleSha256Hex (sampleUses 1).raw sampleUsedFleet
        = some (sampleUsedKey, ⟨3, "relay", 1, true⟩) := by
    decide
  obtain ⟨before, after, held, heldOn, climbs, covers, _⟩ :=
    lastUsedAt_debounced sampleSha256Hex sampleUsedFleet sampleUsedKey (.head _) 3 sampleUses _
      middle ran _ server goesOn
  cases held.symm.trans heldFirst
  cases heldOn.symm.trans heldLast
  exact ⟨_, middle, _, server, ran, goesOn, heldFirst, heldLast, climbs,
    ((covers 1 _ matched).1 _ finished).2⟩

end SpecterCloud.Auth
