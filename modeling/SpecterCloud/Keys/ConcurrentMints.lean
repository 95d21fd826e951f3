import SpecterCloud.Foundations.ActionSteps
import SpecterCloud.Foundations.ClaimRaces
import SpecterCloud.Keys.Lifecycle
import Mathlib.Data.Fintype.Basic

/-! Concurrent mints for one drone. No lock and no unique index stands behind the query for
unrevoked keys, so a drone keeps to one key in the runs where no mint makes that query while
another one is between it and its end.
-/

namespace SpecterCloud.Auth

open SpecterCloud.Foundations
open SpecterCloud.Models
open SpecterCloud.Scripts

/-- What the statements of the key code lock. -/
inductive FleetKey
  | drone (id : UUID)
  | droneApiKey (id : UUID)
deriving DecidableEq

/-- The INSERT locks the id of its row, and shares the row of the drone that it refers to. -/
def insertKeyStatement (row : DroneApiKey) : Statement FleetTables FleetKey Raised where
  locks := [⟨.droneApiKey row.id, true⟩, ⟨.drone row.droneId, false⟩]
  run := FleetTables.insertKey row

/-- The steps of a mint. -/
abbrev MintSteps := Transaction FleetTables FleetKey Raised String

section Steps

variable (sha256Hex : String → HexDigest) (draws : KeyDraws)

/-- `mint` from the query for the unrevoked keys on. -/
def mintForDrone (droneSlug label : String) (droneId : UUID) : MintSteps :=
  .select fun db =>
    match scalarOneOrNone (db.unrevokedKeys droneId) with
    | .error error => .leave (.error error)
    | .ok (some _) =>
        .leave
          (.error
            (.valueError
              ("active api key for the Drone '" ++ droneSlug
                ++ "' available, revoke it first")))
    | .ok none =>
        .execute (insertKeyStatement (mintedKey sha256Hex draws droneId label))
          (.commit (generateApiKey sha256Hex draws).1)

/-- `mint` from the query for the drone on. -/
def mintInOrg (orgSlug droneSlug label : String) (org : Org) : MintSteps :=
  .select fun db =>
    match db.droneByPlace org.id droneSlug with
    | .error error => .leave (.error error)
    | .ok none =>
        .leave
          (.error
            (.valueError
              ("Drone '" ++ droneSlug ++ "' not found in organization '" ++ orgSlug ++ "'")))
    | .ok (some drone) => mintForDrone sha256Hex draws droneSlug label drone.id

/-- `mint`, as the steps of a transaction. -/
def mintSteps (orgSlug droneSlug label : String) : MintSteps :=
  .select fun db =>
    match db.orgBySlug orgSlug with
    | .error error => .leave (.error error)
    | .ok none => .leave (.error (.valueError ("Organization '" ++ orgSlug ++ "' not found")))
    | .ok (some org) => mintInOrg sha256Hex draws orgSlug droneSlug label org

/-- A mint takes its steps. -/
theorem mint_steps (orgSlug droneSlug label : String)
    : (mint sha256Hex draws orgSlug droneSlug label).TakesSteps
        (mintSteps sha256Hex draws orgSlug droneSlug label) := by
  refine Action.TakesSteps.selected ?_ fun db error failed => by simp only [failed]
  intro db org found
  simp only [found]
  cases org with
  | none => exact .throw _
  | some org =>
      refine .selected ?_ fun db error failed => by simp only [failed]
      intro db drone found
      simp only [found]
      cases drone with
      | none => exact .throw _
      | some drone =>
          refine .selected ?_ fun db error failed => by simp only [failed]
          intro db existing held
          simp only [held]
          cases existing with
          | some key => exact .throw _
          | none =>
              exact .executed (insertKeyStatement (mintedKey sha256Hex draws drone.id label))
                (.committed _)

end Steps

/-- The arguments in which mints for one drone differ. -/
structure MintCall where
  draws : KeyDraws
  label : String

/-- The state of a server of mints. -/
abbrev MintServer (n : Nat) := Server (Fin n) FleetTables FleetKey Raised String

section Races

variable {sha256Hex : String → HexDigest} {orgSlug droneSlug : String} {droneId : UUID}
  {org : Org} {fleet : FleetTables} {n : Nat} {calls : Fin n → MintCall}
  {server after : MintServer n} {i : Fin n}

/-- The row of a mint for the drone. -/
def MintCall.row (sha256Hex : String → HexDigest) (droneId : UUID) (call : MintCall)
    : DroneApiKey :=
  mintedKey sha256Hex call.draws droneId call.label

/-- The steps of the mints for one drone. -/
def mints (sha256Hex : String → HexDigest) (orgSlug droneSlug : String)
    (calls : Fin n → MintCall) (i : Fin n)
    : MintSteps :=
  mintSteps sha256Hex (calls i).draws orgSlug droneSlug (calls i).label

/-- The drone has an unrevoked key. -/
def Keyed (droneId : UUID) (db : FleetTables) : Prop := db.unrevokedKeys droneId ≠ []

/-- How far a mint for the drone can have come. -/
inductive MintPhase (sha256Hex : String → HexDigest) (orgSlug droneSlug : String)
    (droneId : UUID) (org : Org) (call : MintCall)
    : Progress FleetTables FleetKey Raised String → Prop
  | start
      : MintPhase sha256Hex orgSlug droneSlug droneId org call
          (.running [] (mintSteps sha256Hex call.draws orgSlug droneSlug call.label))
  | inOrg
      : MintPhase sha256Hex orgSlug droneSlug droneId org call
          (.running [] (mintInOrg sha256Hex call.draws orgSlug droneSlug call.label org))
  | checking
      : MintPhase sha256Hex orgSlug droneSlug droneId org call
          (.running [] (mintForDrone sha256Hex call.draws droneSlug call.label droneId))
  | leaving (error : Raised)
      : MintPhase sha256Hex orgSlug droneSlug droneId org call
          (.running [] (.leave (.error error)))
  | inserting
      : MintPhase sha256Hex orgSlug droneSlug droneId org call
          (.running []
            (.execute (insertKeyStatement (call.row sha256Hex droneId))
              (.commit call.draws.rawKey)))
  | inserted
      : MintPhase sha256Hex orgSlug droneSlug droneId org call
          (.running [insertKeyStatement (call.row sha256Hex droneId)]
            (.commit call.draws.rawKey))
  | committed
      : MintPhase sha256Hex orgSlug droneSlug droneId org call
          (.committed [insertKeyStatement (call.row sha256Hex droneId)] call.draws.rawKey)
  | ended (error : Raised)
      : MintPhase sha256Hex orgSlug droneSlug droneId org call (.ended (.error error))

/-- The mints are on their ways, and the rows that they have sent can still be inserted. -/
structure MintsUnderWay (sha256Hex : String → HexDigest) (orgSlug droneSlug : String)
    (droneId : UUID) (org : Org) (fleet : FleetTables) (calls : Fin n → MintCall)
    (server : MintServer n)
    : Prop where
  orgs : server.db.orgs = fleet.orgs
  drones : server.db.drones = fleet.drones
  phases
    : ∀ i, MintPhase sha256Hex orgSlug droneSlug droneId org (calls i) (server.progress i)
  exclusive : server.Exclusive
  accepted
    : ∀ i sent rest, server.progress i = .running sent rest → sent ≠ []
      → server.db.AcceptsKey ((calls i).row sha256Hex droneId)
  acceptedBefore
    : ∀ i sent raw, server.progress i = .committed sent raw
      → ∃ db : FleetTables, db.AcceptsKey ((calls i).row sha256Hex droneId)

/-- A mint goes on to a phase in which it has sent no more than a row that is accepted. -/
theorem MintsUnderWay.moved
    (mints : MintsUnderWay sha256Hex orgSlug droneSlug droneId org fleet calls server)
    {progress : Progress FleetTables FleetKey Raised String}
    (phase : MintPhase sha256Hex orgSlug droneSlug droneId org (calls i) progress)
    (exclusive : (server.moved i progress).Exclusive)
    (accepted
      : ∀ sent rest, progress = .running sent rest → sent ≠ []
        → server.db.AcceptsKey ((calls i).row sha256Hex droneId))
    (acceptedBefore
      : ∀ sent raw, progress = .committed sent raw
        → ∃ db : FleetTables, db.AcceptsKey ((calls i).row sha256Hex droneId))
    : MintsUnderWay sha256Hex orgSlug droneSlug droneId org fleet calls
        (server.moved i progress) := by
  refine ⟨mints.orgs, mints.drones, ?_, exclusive, ?_, ?_⟩
  · intro j
    rw [Server.moved_progress]
    split
    · rename_i same
      exact same ▸ phase
    · exact mints.phases j
  · intro j sent rest running present
    rw [Server.moved_progress] at running
    split at running
    · rename_i same
      exact same ▸ accepted sent rest running present
    · exact mints.accepted j sent rest running present
  · intro j sent raw committed
    rw [Server.moved_progress] at committed
    split at committed
    · rename_i same
      exact same ▸ acceptedBefore sent raw committed
    · exact mints.acceptedBefore j sent raw committed

/-- The row of another mint can still be inserted after a commit, since their ids are locked. -/
theorem AcceptsKey.beside {db : FleetTables} {row other : DroneApiKey}
    (accepted : db.AcceptsKey row) (acceptedOther : db.AcceptsKey other)
    (apart : other.id ≠ row.id)
    : (db.withKey row accepted).AcceptsKey other where
  fits := acceptedOther.fits
  freshId := by
    intro member
    obtain ⟨key, stored, same⟩ := List.mem_map.mp member
    rcases List.mem_append.mp stored with old | new
    · exact acceptedOther.freshId (List.mem_map.mpr ⟨key, old, same⟩)
    · exact apart (same.symm.trans (congrArg DroneApiKey.id (List.mem_singleton.mp new)))
  droneId := acceptedOther.droneId

theorem overlay_insertKey {db : FleetTables} {row : DroneApiKey} (accepted : db.AcceptsKey row)
    : overlay [insertKeyStatement row] db = db.withKey row accepted := by
  have ran : (insertKeyStatement row).run db = .ok (db.withKey row accepted) :=
    FleetTables.insertKey_accepted accepted
  show overlay ([] ++ [insertKeyStatement row]) db = _
  exact overlay_snoc ran

/-- The slugs name the drone of the fleet, in the org. -/
structure NamedDrone (fleet : FleetTables) (orgSlug droneSlug : String) (org : Org)
    (droneId : UUID)
    : Prop where
  foundOrg : fleet.orgBySlug orgSlug = .ok (some org)
  foundDrone
    : ∃ drone, fleet.droneByPlace org.id droneSlug = .ok (some drone) ∧ drone.id = droneId

section Phases

variable {call : MintCall} {sent : List (Statement FleetTables FleetKey Raised)}
  {next : FleetTables → MintSteps} {rest : MintSteps} {db : FleetTables}

/-- A query leads on; the queries for the org and the drone find them. -/
theorem MintPhase.queried
    (phase
      : MintPhase sha256Hex orgSlug droneSlug droneId org call
          (.running sent (.select next)))
    (named : NamedDrone fleet orgSlug droneSlug org droneId) (orgs : db.orgs = fleet.orgs)
    (drones : db.drones = fleet.drones)
    : sent = []
      ∧ MintPhase sha256Hex orgSlug droneSlug droneId org call (.running [] (next db)) := by
  generalize reached : Progress.running sent (.select next) = progress at phase
  cases phase with
  | start =>
      unfold mintSteps at reached
      cases reached
      refine ⟨rfl, ?_⟩
      have found : db.orgBySlug orgSlug = .ok (some org) := by
        rw [← named.foundOrg, FleetTables.orgBySlug, orgs]
        rfl
      simp only [found]
      exact .inOrg
  | inOrg =>
      unfold mintInOrg at reached
      cases reached
      refine ⟨rfl, ?_⟩
      obtain ⟨drone, found, rfl⟩ := named.foundDrone
      have found : db.droneByPlace org.id droneSlug = .ok (some drone) := by
        rw [← found, FleetTables.droneByPlace, drones]
        rfl
      simp only [found]
      exact .checking
  | checking =>
      unfold mintForDrone at reached
      cases reached
      refine ⟨rfl, ?_⟩
      dsimp only
      cases scalarOneOrNone (db.unrevokedKeys droneId) with
      | error error => exact .leaving error
      | ok existing =>
          cases existing with
          | some key => exact .leaving _
          | none => exact .inserting
  | leaving | inserting | inserted | committed | ended => cases reached

/-- The one statement of a mint inserts its row. -/
theorem MintPhase.executing {statement : Statement FleetTables FleetKey Raised}
    (phase
      : MintPhase sha256Hex orgSlug droneSlug droneId org call
          (.running sent (.execute statement rest)))
    : sent = [] ∧ statement = insertKeyStatement (call.row sha256Hex droneId)
      ∧ rest = .commit call.draws.rawKey := by
  generalize reached : Progress.running sent (.execute statement rest) = progress at phase
  cases phase with
  | inserting =>
      cases reached
      exact ⟨rfl, rfl, rfl⟩
  | start => exact nomatch reached
  | inOrg => exact nomatch reached
  | checking => exact nomatch reached
  | leaving | inserted | committed | ended => cases reached

/-- A mint commits once it has inserted its row. -/
theorem MintPhase.committing {raw : String}
    (phase
      : MintPhase sha256Hex orgSlug droneSlug droneId org call (.running sent (.commit raw)))
    : sent = [insertKeyStatement (call.row sha256Hex droneId)] ∧ raw = call.draws.rawKey := by
  generalize reached : Progress.running sent (.commit raw) = progress at phase
  cases phase with
  | inserted =>
      cases reached
      exact ⟨rfl, rfl⟩
  | start => exact nomatch reached
  | inOrg => exact nomatch reached
  | checking => exact nomatch reached
  | leaving | inserting | committed | ended => cases reached

/-- A mint that leaves raises. -/
theorem MintPhase.left {outcome : Except Raised String}
    (phase
      : MintPhase sha256Hex orgSlug droneSlug droneId org call (.running sent (.leave outcome)))
    : ∃ error, outcome = .error error := by
  generalize reached : Progress.running sent (.leave outcome) = progress at phase
  cases phase with
  | leaving error =>
      cases reached
      exact ⟨error, rfl⟩
  | start => exact nomatch reached
  | inOrg => exact nomatch reached
  | checking => exact nomatch reached
  | inserting | inserted | committed | ended => cases reached

end Phases

/-- A mint whose row is inserted holds the lock on its id. -/
theorem MintsUnderWay.row_sent
    (mints : MintsUnderWay sha256Hex orgSlug droneSlug droneId org fleet calls server)
    {sent : List (Statement FleetTables FleetKey Raised)} {rest : MintSteps}
    (running : server.progress i = .running sent rest) (present : sent ≠ [])
    : sent = [insertKeyStatement ((calls i).row sha256Hex droneId)] := by
  have phase := mints.phases i
  generalize server.progress i = progress at phase running
  subst running
  cases phase with
  | inserted => rfl
  | start | inOrg | checking | leaving | inserting => exact absurd rfl present

/-- Every move leaves the mints on their ways. -/
theorem MintsUnderWay.step
    (mints : MintsUnderWay sha256Hex orgSlug droneSlug droneId org fleet calls server)
    (named : NamedDrone fleet orgSlug droneSlug org droneId) (moves : server.Moves i after)
    : MintsUnderWay sha256Hex orgSlug droneSlug droneId org fleet calls after := by
  have exclusive := mints.exclusive.step moves
  have phase := mints.phases i
  cases moves with
  | @select sent next reached =>
      rw [reached] at phase
      obtain ⟨rfl, queried⟩ := phase.queried named mints.orgs mints.drones
      refine mints.moved queried exclusive ?_ nofun
      intro sent rest running present
      cases running
      exact absurd rfl present
  | @execute sent statement rest view reached free ran =>
      rw [reached] at phase
      obtain ⟨rfl, rfl, rfl⟩ := phase.executing
      refine mints.moved .inserted exclusive ?_ nofun
      intro _ _ _ _
      by_contra rejected
      obtain ⟨error, refused, _⟩ := FleetTables.insertKey_rejected rejected
      cases ran.symm.trans refused
  | refuse reached ran => exact mints.moved (.ended _) exclusive nofun nofun
  | leave reached =>
      rw [reached] at phase
      obtain ⟨error, rfl⟩ := phase.left
      exact mints.moved (.ended error) exclusive nofun nofun
  | @commit sent raw reached =>
      rw [reached] at phase
      obtain ⟨rfl, rfl⟩ := phase.committing
      have accepted := mints.accepted i _ _ reached (List.cons_ne_nil _ _)
      have settled
          : MintsUnderWay sha256Hex orgSlug droneSlug droneId org fleet calls
              (server.moved i (.committed _ _)) :=
        mints.moved .committed (mints.exclusive.moved nofun) nofun
          (fun _ _ _ => ⟨server.db, accepted⟩)
      rw [overlay_insertKey accepted] at exclusive ⊢
      refine ⟨mints.orgs, mints.drones, settled.phases, exclusive, ?_, settled.acceptedBefore⟩
      intro j sent rest running present
      by_cases same : j = i
      · rw [Server.moved_progress, if_pos same] at running
        cases running
      · rw [Server.moved_progress, if_neg same] at running
        -- both hold the locks on the ids of their rows, which therefore differ
        obtain rfl := mints.row_sent running present
        have unlocked := mints.exclusive j i same
          ⟨.droneApiKey ((calls j).row sha256Hex droneId).id, true⟩ (by simp [running,
            Progress.held, insertKeyStatement])
          ⟨.droneApiKey ((calls i).row sha256Hex droneId).id, true⟩ (by simp [reached,
            Progress.held, insertKeyStatement])
        refine AcceptsKey.beside accepted (mints.accepted j _ _ running present) ?_
        intro sameId
        simp [Lock.conflicts, sameId] at unlocked

-----------------------------------------------------------------------------------------
-- Mints check for a key and then insert one
-----------------------------------------------------------------------------------------

/-- Only the INSERT of a key for the drone makes it keyed, and none makes it unkeyed. -/
theorem insertKeyStatement_takes (droneId : UUID) (row : DroneApiKey)
    : Takes (.drone droneId) (Keyed droneId) (insertKeyStatement row) := by
  intro db next ran
  have accepted : db.AcceptsKey row := by
    by_contra rejected
    obtain ⟨error, refused, _⟩ := FleetTables.insertKey_rejected rejected
    cases ran.symm.trans refused
  obtain rfl : db.withKey row accepted = next :=
    Except.ok.inj ((FleetTables.insertKey_accepted accepted).symm.trans ran)
  unfold Keyed
  rw [FleetTables.unrevokedKeys_withKey]
  constructor
  · intro keyed
    by_cases same : row.droneId = droneId
    · exact .inr ⟨by simp [insertKeyStatement, same], db, _, ran⟩
    · refine .inl ?_
      simpa [same] using keyed
  · intro keyed unkeyed
    exact keyed (List.append_eq_nil_iff.mp unkeyed).1

/-- From the query for the unrevoked keys on, a mint inserts only for a drone without them. -/
theorem mintForDrone_checks (draws : KeyDraws) (label : String) (other : UUID)
    : (mintForDrone sha256Hex draws droneSlug label other).Checks (.drone droneId)
        (Keyed droneId) := by
  intro db
  refine .inr ?_
  dsimp only
  cases found : scalarOneOrNone (db.unrevokedKeys other) with
  | error error => exact ⟨trivial, fun _ => not_claimed_nil⟩
  | ok existing =>
      cases existing with
      | some key => exact ⟨trivial, fun _ => not_claimed_nil⟩
      | none =>
          refine ⟨trivial, ?_⟩
          rintro keyed ⟨statement, member, claims⟩
          obtain rfl := List.mem_singleton.mp member
          have same : other = droneId := by
            simpa [insertKeyStatement, mintedKey, eq_comm] using claims.locks
          subst same
          refine keyed ?_
          unfold scalarOneOrNone at found
          split at found
          · assumption
          · cases found
          · cases found

/-- A mint inserts only for a drone that it has found without unrevoked keys. -/
theorem mintSteps_checks (draws : KeyDraws) (label : String)
    : (mintSteps sha256Hex draws orgSlug droneSlug label).Checks (.drone droneId)
        (Keyed droneId) := by
  intro db
  dsimp only
  cases db.orgBySlug orgSlug with
  | error error => exact .inr ⟨trivial, fun _ => not_claimed_nil⟩
  | ok found =>
      cases found with
      | none => exact .inr ⟨trivial, fun _ => not_claimed_nil⟩
      | some org =>
          refine .inl fun db => ?_
          dsimp only
          cases db.droneByPlace org.id droneSlug with
          | error error => exact .inr ⟨trivial, fun _ => not_claimed_nil⟩
          | ok found =>
              cases found with
              | none => exact .inr ⟨trivial, fun _ => not_claimed_nil⟩
              | some drone => exact .inl (mintForDrone_checks draws label drone.id)

/-- A mint sends nothing but INSERTs of keys. -/
theorem mintSteps_only (draws : KeyDraws) (label : String)
    {allowed : Statement FleetTables FleetKey Raised → Prop}
    (inserts : ∀ row, allowed (insertKeyStatement row))
    : (mintSteps sha256Hex draws orgSlug droneSlug label).Only allowed := by
  intro db
  dsimp only
  cases db.orgBySlug orgSlug with
  | error error => trivial
  | ok found =>
      cases found with
      | none => trivial
      | some org =>
          intro db
          dsimp only
          cases db.droneByPlace org.id droneSlug with
          | error error => trivial
          | ok found =>
              cases found with
              | none => trivial
              | some drone =>
                  intro db
                  dsimp only
                  cases scalarOneOrNone (db.unrevokedKeys drone.id) with
                  | error error => trivial
                  | ok existing =>
                      cases existing with
                      | some key => trivial
                      | none => exact ⟨inserts _, trivial⟩

-----------------------------------------------------------------------------------------
-- Runs
-----------------------------------------------------------------------------------------

variable {guard : MintServer n → Fin n → Prop} {history : List (Fin n)}

/-- Mints for a named drone are on their ways in every state reached. -/
theorem mints_underWay (named : NamedDrone fleet orgSlug droneSlug org droneId)
    (ran
      : Interleavings guard (mints sha256Hex orgSlug droneSlug calls) fleet history server)
    : MintsUnderWay sha256Hex orgSlug droneSlug droneId org fleet calls server := by
  refine Runs.invariant
    (fun _ server => MintsUnderWay sha256Hex orgSlug droneSlug droneId org fleet calls server)
    ?_ ?_ ran
  · refine ⟨rfl, rfl, fun i => .start, ?_, ?_, by simp [Server.initial]⟩
    · intro _ _ _ _ held
      cases held
    · intro i sent rest running present
      cases running
      exact absurd rfl present
  · exact fun _ underWay stepped => underWay.step named (Server.advance_moves stepped.1)

/-- Mints that stay apart check for a key and then insert one. -/
theorem mints_checksApart (named : NamedDrone fleet orgSlug droneSlug org droneId)
    : ChecksApart (.drone droneId) (Keyed droneId) (Server.Apart (.drone droneId))
        (mints sha256Hex orgSlug droneSlug calls) fleet where
  checks := fun i => mintSteps_checks (calls i).draws (calls i).label
  only := fun i => mintSteps_only (calls i).draws (calls i).label (insertKeyStatement_takes droneId)
  apart := fun _ _ apart => apart
  inForce := by
    intro history server ran i sent rest running claimed
    have underWay := mints_underWay named ran
    have present : sent ≠ [] := fun none_ => not_claimed_nil (none_ ▸ claimed)
    obtain rfl := underWay.row_sent running present
    rw [overlay_insertKey (underWay.accepted i _ _ running present)]
    unfold Keyed
    rw [FleetTables.unrevokedKeys_withKey]
    simp [MintCall.row, mintedKey]

/-- A drone without unrevoked keys has at most one after mints that stay apart. -/
theorem mints_single (named : NamedDrone fleet orgSlug droneSlug org droneId)
    (unkeyed : fleet.unrevokedKeys droneId = [])
    (ran
      : Interleavings (Server.Apart (.drone droneId))
          (mints sha256Hex orgSlug droneSlug calls) fleet history server)
    : (server.db.unrevokedKeys droneId).length ≤ 1 := by
  refine Runs.invariant
    (fun history server =>
      Interleavings (Server.Apart (.drone droneId)) (mints sha256Hex orgSlug droneSlug calls)
        fleet history server
      → (server.db.unrevokedKeys droneId).length ≤ 1)
    ?_ ?_ ran ran
  · simp [Server.initial, unkeyed]
  · intro history server i after ran single stepped _
    have underWay := mints_underWay named ran
    have race := (mints_checksApart named).raceFree ran
    have phase := underWay.phases i
    cases Server.advance_moves stepped.1 with
    | select | execute | refuse | leave => exact single ran
    | @commit sent raw reached =>
        rw [reached] at phase
        obtain ⟨rfl, rfl⟩ := phase.committing
        have accepted := underWay.accepted i _ _ reached (List.cons_ne_nil _ _)
        have claims : (server.progress i).Pending (.drone droneId) := by
          rw [reached]
          refine ⟨_, .head _, ?_, server.db, _, FleetTables.insertKey_accepted accepted⟩
          simp [insertKeyStatement, MintCall.row, mintedKey]
        have none_ := not_not.mp (race.free i claims)
        simp only [overlay_insertKey accepted, FleetTables.unrevokedKeys_withKey, none_,
          List.nil_append]
        exact List.length_filter_le ..

/-- A mint that has returned a key has inserted it for the drone. -/
theorem mints_settled (named : NamedDrone fleet orgSlug droneSlug org droneId)
    (ran
      : Interleavings guard (mints sha256Hex orgSlug droneSlug calls) fleet history server)
    {raw : String} (returned : (server.progress i).outcome = some (.ok raw))
    : (server.progress i).Settled (.drone droneId) := by
  have underWay := mints_underWay named ran
  have phase := underWay.phases i
  have acceptedBefore := underWay.acceptedBefore i
  generalize server.progress i = progress at phase returned acceptedBefore
  cases phase with
  | committed =>
      obtain ⟨db, accepted⟩ := acceptedBefore _ _ rfl
      refine ⟨_, .head _, ?_, db, _, FleetTables.insertKey_accepted accepted⟩
      simp [insertKeyStatement, MintCall.row, mintedKey]
  | start | inOrg | checking | leaving | inserting | inserted | ended =>
      cases returned

/-- The drone is named in every state reached. -/
theorem MintsUnderWay.names
    (mints : MintsUnderWay sha256Hex orgSlug droneSlug droneId org fleet calls server)
    (names : fleet.Names orgSlug droneSlug droneId)
    : server.db.Names orgSlug droneSlug droneId := by
  unfold FleetTables.Names
  rw [mints.orgs, mints.drones]
  exact names

end Races

/-- What a mint raises for a drone that has an unrevoked key. -/
def activeKeyError (droneSlug : String) : Raised :=
  .valueError
    ("active api key for the Drone '" ++ droneSlug ++ "' available, revoke it first")

/-- A mint for a drone with one unrevoked key raises. -/
theorem mint_keyed (sha256Hex : String → HexDigest) (draws : KeyDraws) (label : String)
    {orgSlug droneSlug : String} {droneId : UUID} {db : FleetTables}
    (names : db.Names orgSlug droneSlug droneId) (keyed : Keyed droneId db)
    (single : (db.unrevokedKeys droneId).length ≤ 1)
    : (mint sha256Hex draws orgSlug droneSlug label).perform db
      = (.error (activeKeyError droneSlug), db) := by
  have found : ∃ key, scalarOneOrNone (db.unrevokedKeys droneId) = .ok (some key) := by
    rw [scalarOneOrNone_le_one single]
    obtain ⟨key, _, held⟩ := List.exists_cons_of_ne_nil keyed
    exact ⟨key, by rw [held]; rfl⟩
  obtain ⟨key, found⟩ := found
  exact (mint_named names (.selected found (.throw _))).perform

/-- Concurrent mints for one drone without unrevoked keys, in every run in which no mint finds
it without keys while another one that has found it so is in flight: at most one mint returns a
key, the drone has at most one unrevoked key, and a later mint raises only that it has one, as
it does when a mint has returned.
-/
theorem mints_apart_mint_once (sha256Hex : String → HexDigest) (orgSlug droneSlug : String)
    (droneId : UUID) (fleet : FleetTables) (names : fleet.Names orgSlug droneSlug droneId)
    (unkeyed : fleet.unrevokedKeys droneId = []) (n : Nat) (calls : Fin n → MintCall)
    (history : List (Fin n)) (server : MintServer n)
    (ran
      : Interleavings (Server.Apart (.drone droneId))
          (mints sha256Hex orgSlug droneSlug calls) fleet history server)
    : (∀ i j raw other,
        (server.progress i).outcome = some (.ok raw)
        → (server.progress j).outcome = some (.ok other)
        → i = j)
      ∧ (server.db.unrevokedKeys droneId).length ≤ 1
      ∧ ∀ draws label,
          let later := (mint sha256Hex draws orgSlug droneSlug label).perform server.db
          later.1 ≠ .error .multipleResultsFound
          ∧ (server.db.unrevokedKeys droneId ≠ []
              → later = (.error (activeKeyError droneSlug), server.db))
          ∧ ((∃ i raw, (server.progress i).outcome = some (.ok raw))
              → server.db.unrevokedKeys droneId ≠ []) := by
  obtain ⟨org, drone, foundOrg, foundDrone, same⟩ := names.found
  have named : NamedDrone fleet orgSlug droneSlug org droneId :=
    ⟨foundOrg, drone, foundDrone, same⟩
  have race := (mints_checksApart named).raceFree ran
  have single := mints_single named unkeyed ran
  have names := (mints_underWay named ran).names names
  refine ⟨?_, single, fun draws label => ⟨?_, ?_, ?_⟩⟩
  · intro i j raw other first second
    exact race.once i j (mints_settled named ran first) (mints_settled named ran second)
  · intro several
    obtain ⟨outcome, after, ends, performed⟩ :=
      mint_cases sha256Hex draws orgSlug droneSlug label server.db
    rw [performed.perform] at several
    cases ends with
    | raised rows =>
        obtain ⟨other, namesOther, many⟩ := rows (Except.error.inj several)
        obtain rfl := names.unique namesOther
        exact absurd single (Nat.not_le.mpr many)
    | minted => cases several
  · exact fun keyed => mint_keyed sha256Hex draws label names keyed single
  · rintro ⟨i, raw, returned⟩
    exact race.settled i (mints_settled named ran returned)

/-- Draws with another secret under the same prefix. -/
def otherDraws : KeyDraws where
  keyPrefix := "0a1b2c3d"
  secret := "b"
  keyId := 11
  prefixLength := sampleDraws_length
  prefixDigits := sampleDraws_digits
  secretPresent := nofun

/-- Two mints for the first drone. -/
def sampleMints (i : Fin 2) : MintCall :=
  match i with
  | 0 => ⟨sampleDraws, "initial"⟩
  | 1 => ⟨otherDraws, "initial"⟩

theorem sampleUnkeyedFleet_names : sampleUnkeyedFleet.Names "specter" "scout" 2 :=
  ⟨⟨1, "Specter", "specter", none⟩, .head _, rfl, ⟨2, "scout", 1, true⟩, .head _, rfl, rfl⟩

/-- Of two mints, the second one started after the first has ended, the second one raises. -/
theorem successive_mints_mint_once
    : ∃ history server,
        Interleavings (Server.Apart (.drone 2))
            (mints sampleSha256Hex "specter" "scout" sampleMints) sampleUnkeyedFleet history
            server
        ∧ (server.progress 0).outcome = some (.ok sampleDraws.rawKey)
        ∧ ((mint sampleSha256Hex otherDraws "specter" "scout" "late").perform server.db)
          = (.error (activeKeyError "scout"), server.db) := by
  have checked
      : (Server.play Server.clear
          (.initial sampleUnkeyedFleet (mints sampleSha256Hex "specter" "scout" sampleMints))
          [1, 1, 1, 1, 0, 0, 0, 0, 0]).any
          (fun server => decide ((server.progress 0).outcome = some (.ok sampleDraws.rawKey)))
        = true := by
    decide
  obtain ⟨server, ran, found⟩ := Server.play_finds (Server.clear_apart (.drone 2)) checked
  have returned := of_decide_eq_true found
  have once := mints_apart_mint_once sampleSha256Hex "specter" "scout" 2 sampleUnkeyedFleet
    sampleUnkeyedFleet_names rfl 2 sampleMints _ server ran
  obtain ⟨_, raises, keyed⟩ := once.2.2 otherDraws "late"
  exact ⟨_, server, ran, returned, raises (keyed ⟨0, _, returned⟩)⟩

/-- Two mints that both look for keys before either inserts one both return a key, and then
every mint for the drone finds several rows.
-/
theorem overlapping_mints_mint_twice
    : ∃ history server,
        Interleavings Server.unguarded (mints sampleSha256Hex "specter" "scout" sampleMints)
            sampleUnkeyedFleet history server
        ∧ sampleUnkeyedFleet.unrevokedKeys 2 = []
        ∧ (server.progress 0).outcome = some (.ok sampleDraws.rawKey)
        ∧ (server.progress 1).outcome = some (.ok otherDraws.rawKey)
        ∧ (server.db.unrevokedKeys 2).length = 2
        ∧ ((mint sampleSha256Hex sampleDraws "specter" "scout" "late").perform server.db).1
          = .error .multipleResultsFound := by
  have checked
      : (Server.play (fun _ _ => true)
          (.initial sampleUnkeyedFleet (mints sampleSha256Hex "specter" "scout" sampleMints))
          [1, 0, 1, 0, 1, 1, 1, 0, 0, 0]).any
          (fun server =>
            decide
              ((server.progress 0).outcome = some (.ok sampleDraws.rawKey)
                ∧ (server.progress 1).outcome = some (.ok otherDraws.rawKey)
                ∧ (server.db.unrevokedKeys 2).length = 2
                ∧ ((mint sampleSha256Hex sampleDraws "specter" "scout" "late").perform
                    server.db).1
                  = .error .multipleResultsFound))
        = true := by
    decide
  obtain ⟨server, ran, found⟩ := Server.play_finds (fun _ _ _ => trivial) checked
  exact ⟨_, server, ran, rfl, of_decide_eq_true found⟩

end SpecterCloud.Auth
